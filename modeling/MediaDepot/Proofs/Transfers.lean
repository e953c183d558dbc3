import MediaDepot.Handler.Basic
import MediaDepot.Proofs.Actions
import MediaDepot.Proofs.Identifiers
import MediaDepot.Proofs.Places
import MediaDepot.Proofs.Reading

/-!
# MediaDepot.Proofs.Transfers

**What a transfer leaves behind.** Whatever becomes of the content, the record of a transfer is the
one it was given apart from its location and its digest (`Handler.transfer_record`).

In a folder, a transfer concerns the file of its key alone, and if it succeeds this file holds what
the source had to give (`LocalHandler.transfer_spec`). Deleting takes away what is stored at the
locations given and nothing else (`LocalHandler.content_deleteAll_eq_ok_iff`), and a file stays
readable as long as others are concerned (`LocalHandler.content_of_spares`).
-/

namespace MediaDepot

namespace LocalHandler

variable (handler : LocalHandler)

/-! ### Locations -/

theorem pathFor_eq_ok {location : String} {path : FilePath} :
    handler.pathFor location = .ok path ↔
      isPlain location = true ∧ handler.root.child location = path := by
  rw [pathFor_eq_ok_iff, isPlain_iff, @eq_comm _ path]

theorem ne_dots_of_isPlain {location : String} (h : isPlain location = true) : location ≠ ".." :=
  (isPlain_iff.mp h).ne_points

theorem content_eq_ok_iff {location : String} {files : FileTree} {content : Bytes} :
    handler.content location files = .ok content ↔
      isPlain location = true ∧ files.read (handler.root.child location) = .ok content := by
  unfold LocalHandler.content
  rcases hpath : handler.pathFor location with fault | path
  · have hplain : ¬ isPlain location = true := fun hplain =>
      nomatch hpath.symm.trans (handler.pathFor_eq_ok.mpr ⟨hplain, rfl⟩)
    simp [hplain]
  · obtain ⟨hplain, rfl⟩ := handler.pathFor_eq_ok.mp hpath
    simp [hplain]

/-- **What is stored stays readable** as long as the files of other locations are concerned. -/
theorem content_of_spares {names : List String} {before after : FileTree} {location : String}
    {content : Bytes} (h : FileTree.Spares names before after) (hother : location ∉ names)
    (hcontent : handler.content location before = .ok content) :
    handler.content location after = .ok content := by
  rw [content_eq_ok_iff] at hcontent ⊢
  obtain ⟨hplain, hread⟩ := hcontent
  exact ⟨hplain, h.read_child (ne_dots_of_isPlain hplain) hother hread⟩

/-! ### Writing -/

@[simp] theorem run_changeFiles (change : FileTree → FileTree.Change) (site : Site) :
    (changeFiles change).run site =
      ((change site.files).2, { site with files := (change site.files).1 }) := rfl

theorem run_openFile (path : FilePath) (site : Site) :
    (openFile path).run site =
      match site.files.makeFolders path.parent with
      | (files, .error fault) => (.error fault, { site with files })
      | (files, .ok _) =>
        match files.openNew path with
        | .error fault => (.error fault, { site with files })
        | .ok (place, files) => (.ok place, { site with files }) := by
  rcases hmade : site.files.makeFolders path.parent with ⟨files, fault | done⟩
  · rw [openFile, StateM.run_bind, run_changeFiles, hmade]
    rfl
  · rw [openFile, StateM.run_bind, run_changeFiles, hmade]
    cases hopen : files.openNew path with
    | error fault => simp [hopen]; rfl
    | ok opened => simp [hopen]; rfl

/-- **Making a place for a new file** concerns files of its name alone; an empty file stands there
afterwards. -/
theorem openFile_spec (folder : FilePath) {name : String} (hname : name ≠ "..") (site : Site) :
    ∃ files, ((openFile (folder.child name)).run site).2 = { site with files } ∧
      FileTree.Spares [name] site.files files ∧
      ∀ place, ((openFile (folder.child name)).run site).1 = .ok place →
        (folder.child name).holdsNul = false ∧ files.resolve (folder.child name) = .ok place ∧
          files.find? place = some (.file []) := by
  have hspares := FileTree.spares_makeFolders site.files (folder.child name).parent [name]
  rw [run_openFile]
  -- folders that were made before a fault stay
  rcases hmade : site.files.makeFolders (folder.child name).parent with ⟨made, fault | done⟩
  · rw [hmade] at hspares
    exact ⟨made, rfl, hspares, fun place h => nomatch h⟩
  · rw [hmade] at hspares
    rcases hopen : made.openNew (folder.child name) with fault | ⟨place, opened⟩
    · exact ⟨made, by simp [hopen], hspares, fun place h => by simp [hopen] at h⟩
    · obtain ⟨hnul, hplace, hfolder, rfl⟩ := FileTree.openNew_eq_ok hopen
      have hlast := FileTree.getLast?_of_resolve_child hname hplace
      have hput := FileTree.spares_put (.file []) hfolder hlast
      refine ⟨made.put place (.file []), by simp [hopen], hspares.trans hput, fun there h => ?_⟩
      obtain rfl : place = there := by simpa [hopen] using h
      refine ⟨hnul, hput.resolve hplace, ?_⟩
      rw [FileTree.find?_put _ _ _ (FileTree.isFixed_eq_false hfolder), if_pos rfl]

theorem pieceSize_pos : 0 < pieceSize := by decide

/-- Every source can be read in pieces of this size. -/
theorem takes_pieceSize (source : Source) : source.takes (some pieceSize) = true := by
  have hfits : Number.fitsWord pieceSize = true := by decide
  simp [Source.takes, hfits]

/-- **Writing a file** concerns files of its name alone. If it succeeds, the file holds what the
source had to give, and the reader counted and digested just that. -/
theorem write_spec (folder : FilePath) {name : String} (hname : name ≠ "..") (source : Source)
    (site : Site) :
    ∃ files, ((write (folder.child name) source).run site).2 = { site with files } ∧
      FileTree.Spares [name] site.files files ∧
      ∀ reader, ((write (folder.child name) source).run site).1 = .ok reader →
        files.read (folder.child name) = .ok source.rest ∧ reader.count = source.rest.length ∧
          reader.hexDigest = Digest.Md5.hexDigest source.rest := by
  obtain ⟨opened, hafter, hspares, hopened⟩ := openFile_spec folder hname site
  obtain ⟨hbytes, hfault, hreader⟩ := Hasher.drain_of source pieceSize_pos (takes_pieceSize source)
  rw [write, StateM.run_bind, hafter]
  cases hopen : ((openFile (folder.child name)).run site).1 with
  | error fault => exact ⟨opened, rfl, hspares, fun reader h => nomatch h⟩
  | ok place =>
      obtain ⟨hnul, hplace, hempty⟩ := hopened place hopen
      have hfolder : opened.find? place ≠ some .folder := by simp [hempty]
      have hput := FileTree.spares_put (.file source.rest) hfolder
        (FileTree.getLast?_of_resolve_child hname hplace)
      -- the path still leads to the place, which holds the content now
      have hread : (opened.put place (.file source.rest)).read (folder.child name) =
          .ok source.rest := by
        refine FileTree.read_eq_ok_iff.mpr ⟨hnul, place, hput.resolve hplace, ?_⟩
        rw [FileTree.find?_put _ _ _ (FileTree.isFixed_eq_false hfolder), if_pos rfl]
      refine ⟨opened.put place (.file source.rest), ?_, hspares.trans hput, fun reader h => ?_⟩
      all_goals
        rcases hdrain : (Hasher.of source).drain pieceSize with ⟨content, fault, hasher⟩
        rw [hdrain] at hbytes hfault hreader
        obtain rfl : content = source.rest := hbytes
      · cases fault <;> rfl
      · simp only [hdrain] at h
        cases fault with
        | some fault => cases h
        | none =>
            obtain rfl : hasher = reader := Except.ok.inj h
            exact ⟨hread, hreader hfault.symm⟩

/-! ### Bringing content to its place -/

/-- A storage key is a plain name, so a transfer comes to writing the file of the key. -/
theorem run_transfer (record : Record) (source : Source) (site : Site) :
    (handler.transfer record source).run site =
      (match ((write (handler.root.child record.key) source).run site).1 with
        | .error fault => ⟨record, .error (uploadFailure record.key fault)⟩
        | .ok reader =>
          ⟨{ record with location := record.key, etag := reader.hexDigest },
            .ok ⟨Handler.urlOf handler.config.toServeConfig record, reader.count⟩⟩,
        ((write (handler.root.child record.key) source).run site).2) := by
  have hpath : handler.pathFor record.key = .ok (handler.root.child record.key) :=
    handler.pathFor_eq_ok.mpr ⟨isPlain_key record.uid, rfl⟩
  rw [transfer, hpath, StateM.run_bind]
  cases ((write (handler.root.child record.key) source).run site).1 <;> rfl

/-- **What a transfer to a folder leaves behind**: the files of other names, and if it succeeds, a
file with what the source had to give and a record that knows where and what this is. -/
theorem transfer_spec (record : Record) (source : Source) (site : Site) :
    ∃ files, ((handler.transfer record source).run site).2 = { site with files } ∧
      FileTree.Spares [record.key] site.files files ∧
      ∀ uploaded, ((handler.transfer record source).run site).1.outcome = .ok uploaded →
        handler.content record.key files = .ok source.rest ∧
          ((handler.transfer record source).run site).1.record =
            { record with location := record.key, etag := Digest.Md5.hexDigest source.rest } ∧
          uploaded = ⟨Handler.urlOf handler.config.toServeConfig record, source.rest.length⟩ := by
  have hplain : isPlain record.key = true := isPlain_key record.uid
  obtain ⟨files, hafter, hspares, hwritten⟩ :=
    write_spec handler.root (ne_dots_of_isPlain hplain) source site
  rw [run_transfer]
  refine ⟨files, hafter, hspares, fun uploaded h => ?_⟩
  cases hwrite : ((write (handler.root.child record.key) source).run site).1 with
  | error fault => simp [hwrite] at h
  | ok reader =>
      obtain ⟨hread, hcount, hdigest⟩ := hwritten reader hwrite
      refine ⟨handler.content_eq_ok_iff.mpr ⟨hplain, hread⟩, by simp [hdigest], ?_⟩
      simpa [hwrite, hcount, eq_comm] using h

/-! ### Deleting -/

theorem deleteOne_spares {location : String} {files after : FileTree}
    (h : handler.deleteOne location files = .ok after) :
    FileTree.Spares [location] files after := by
  unfold deleteOne at h
  split at h
  · cases h
  · next path hpath =>
      obtain ⟨hplain, rfl⟩ := handler.pathFor_eq_ok.mp hpath
      obtain ⟨place, hplace, hfolder, rfl⟩ := FileTree.remove_eq_ok h
      exact FileTree.spares_erase hfolder
        (FileTree.getLast?_of_resolve_child (ne_dots_of_isPlain hplain) hplace)

/-- **Deleting** concerns the files of the locations given, whatever becomes of each. -/
theorem deleteAll_spares (locations : List String) (files : FileTree) :
    FileTree.Spares locations files (handler.deleteAll locations files).1 := by
  induction locations generalizing files with
  | nil => exact .refl [] files
  | cons location rest ih =>
      have hrest (files : FileTree) :
          FileTree.Spares (location :: rest) files (handler.deleteAll rest files).1 :=
        (ih files).mono fun name h => List.mem_cons_of_mem location h
      unfold deleteAll
      cases hdelete : handler.deleteOne location files with
      | error fault => exact hrest files
      | ok after =>
          exact ((handler.deleteOne_spares hdelete).mono (by simp)).trans (hrest after)

theorem deleteOne_spares_before {location : String} {files after : FileTree}
    (h : handler.deleteOne location files = .ok after) : FileTree.Spares [] after files := by
  unfold deleteOne at h
  split at h
  · cases h
  · obtain ⟨place, -, hfolder, rfl⟩ := FileTree.remove_eq_ok h
    exact FileTree.spares_of_erase hfolder

/-- What is stored can be deleted. -/
theorem deleteOne_of_content {location : String} {files : FileTree} {content : Bytes}
    (h : handler.content location files = .ok content) :
    ∃ after, handler.deleteOne location files = .ok after := by
  obtain ⟨hplain, hread⟩ := handler.content_eq_ok_iff.mp h
  obtain ⟨after, hremove⟩ := FileTree.remove_of_read hread
  exact ⟨after, by rw [deleteOne, handler.pathFor_eq_ok.mpr ⟨hplain, rfl⟩]; exact hremove⟩

theorem content_of_deleteOne {location : String} {files after : FileTree}
    (h : handler.deleteOne location files = .ok after) (content : Bytes) :
    handler.content location after ≠ .ok content := by
  intro hcontent
  obtain ⟨hplain, hread⟩ := handler.content_eq_ok_iff.mp hcontent
  rw [deleteOne, handler.pathFor_eq_ok.mpr ⟨hplain, rfl⟩] at h
  exact FileTree.read_of_remove h content hread

/-- Deleting adds nothing. -/
theorem deleteAll_spares_before (locations : List String) (files : FileTree) :
    FileTree.Spares [] (handler.deleteAll locations files).1 files := by
  induction locations generalizing files with
  | nil => exact .refl [] files
  | cons location rest ih =>
      unfold deleteAll
      cases hdelete : handler.deleteOne location files with
      | error fault => exact ih files
      | ok after => exact (ih after).trans (handler.deleteOne_spares_before hdelete)

/-- Nothing is stored afterwards at any of the locations given. -/
theorem content_deleteAll_of_mem {locations : List String} {location : String}
    (h : location ∈ locations) (files : FileTree) (content : Bytes) :
    handler.content location (handler.deleteAll locations files).1 ≠ .ok content := by
  induction locations generalizing files with
  | nil => cases h
  | cons first rest ih =>
      intro hcontent
      have hbefore (files : FileTree)
          (hcontent : handler.content location (handler.deleteAll rest files).1 = .ok content) :
          handler.content location files = .ok content :=
        handler.content_of_spares (handler.deleteAll_spares_before rest files)
          List.not_mem_nil hcontent
      unfold deleteAll at hcontent
      cases hdelete : handler.deleteOne first files with
      | error fault =>
          simp only [hdelete] at hcontent
          rcases List.mem_cons.mp h with rfl | hrest
          · obtain ⟨after, hafter⟩ := handler.deleteOne_of_content (hbefore files hcontent)
            cases hdelete.symm.trans hafter
          · exact ih hrest files hcontent
      | ok after =>
          simp only [hdelete] at hcontent
          rcases List.mem_cons.mp h with rfl | hrest
          · exact handler.content_of_deleteOne hdelete content (hbefore after hcontent)
          · exact ih hrest after hcontent

/-- **What is stored after deleting**: what was stored before at other locations. -/
theorem content_deleteAll_eq_ok_iff {locations : List String} {location : String} {files : FileTree}
    {content : Bytes} :
    handler.content location (handler.deleteAll locations files).1 = .ok content ↔
      location ∉ locations ∧ handler.content location files = .ok content := by
  constructor
  · intro hcontent
    refine ⟨fun hmem => handler.content_deleteAll_of_mem hmem files content hcontent, ?_⟩
    exact handler.content_of_spares (handler.deleteAll_spares_before locations files)
      List.not_mem_nil hcontent
  · rintro ⟨hother, hcontent⟩
    exact handler.content_of_spares (handler.deleteAll_spares locations files) hother hcontent

end LocalHandler

/-! ### The record of a transfer -/

namespace Handler

/-- **A transfer keeps its record** apart from the location and the digest. -/
theorem transfer_record (handler : Handler) (record : Record) (source : Source) (site : Site) :
    ∃ location etag, ((handler.transfer record source).run site).1.record =
      { record with location, etag } := by
  cases handler with
  | files handler =>
      simp only [transfer, LocalHandler.run_transfer]
      split
      · exact ⟨record.location, record.etag, rfl⟩
      · exact ⟨_, _, rfl⟩
  | bucket handler =>
      simp only [transfer, BucketHandler.transfer, StateM.run_bind]
      rcases ((handler.putObject record source).run site).1 with fault | ⟨size, known⟩
      · exact ⟨record.location, record.etag, rfl⟩
      · cases hetag : BucketHandler.etagOf known with
        | error fault => exact ⟨_, _, by simp only [hetag]; rfl⟩
        | ok etag => exact ⟨_, _, by simp only [hetag]; rfl⟩

end Handler

end MediaDepot
