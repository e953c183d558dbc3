import MediaDepot.Proofs.Folders
import MediaDepot.Proofs.Lookups
import MediaDepot.Proofs.Uploads

/-!
# MediaDepot.Proofs.FolderUploads

**An upload to a folder is exact, and its failure leaves the record alone.** If the folder can keep
a file under the key (`LocalHandler.CanKeep`), then the file is opened whatever stands there, and it
holds what was read of the source, whether or not reading came to its end
(`LocalHandler.run_write`). What stands elsewhere stays, but for folders on the way that were
missing (`FileTree.Writes`).

The record learns its location and its digest only when all was read
(`LocalHandler.run_transfer_of_canKeep`).
-/

namespace MediaDepot

/-! ### Storage keys as names of files -/

/-- A storage key is a short name. -/
theorem Uid.utf8ByteSize_key (u : Uid) : u.key.utf8ByteSize = 13 := by
  have hone : keyAlphabet.all (·.utf8Size = 1) = true := by decide
  have hletters : ∀ c ∈ letters keyAlphabet 13 (2 * u.spelled), c.utf8Size = 1 := fun c hc =>
    of_decide_eq_true (List.all_eq_true.mp hone c (mem_of_mem_letters (by simp) hc))
  rw [key, Text.utf8ByteSize_ofList_of_ascii hletters, length_letters]

/-- The path of a storage key holds a NUL only if that of the folder does. -/
theorem FilePath.holdsNul_child_key (folder : FilePath) (u : Uid) :
    (folder.child u.key).holdsNul = folder.holdsNul := by
  have hkey : '\x00' ∉ u.key.toList := fun h => absurd (Uid.mem_key h) (by decide)
  simp [holdsNul, child, hkey]

namespace FileTree

variable {before tree after : FileTree} {path folder : FilePath}

/-! ### Folders that were made -/

/-- **At most folders were added.** -/
def AddsFolders (before after : FileTree) : Prop :=
  ∀ place, after.find? place = before.find? place ∨
    before.find? place = none ∧ after.find? place = some .folder

theorem AddsFolders.refl (tree : FileTree) : AddsFolders tree tree := fun _ => .inl rfl

theorem AddsFolders.trans {first second third : FileTree} (h : AddsFolders first second)
    (h' : AddsFolders second third) : AddsFolders first third := by
  intro place
  rcases h place with hsame | ⟨hnone, hfolder⟩
  · exact hsame ▸ h' place
  · -- a folder that was added stays
    rcases h' place with hsame' | ⟨hnone', -⟩
    · exact .inr ⟨hnone, hsame'.trans hfolder⟩
    · exact absurd (hnone'.symm.trans hfolder) nofun

theorem addsFolders_put {place : Place} (h : tree.find? place = none) :
    AddsFolders tree (tree.put place .folder) := by
  intro other
  rw [find?_put _ _ _ (isFixed_of_find?_eq_none h)]
  split
  · next hsame => exact .inr ⟨hsame ▸ h, rfl⟩
  · exact .inl rfl

theorem addsFolders_makeFolders (tree : FileTree) (path : FilePath) :
    AddsFolders tree (tree.makeFolders path).1 :=
  makeFolders_related AddsFolders.refl AddsFolders.trans addsFolders_put tree path

theorem hasFolder_of_isFolder (h : tree.isFolder path = true) : tree.HasFolder path := by
  unfold isFolder resolve at h
  split at h
  · next place hplace =>
      split at hplace
      · cases hplace
      · exact ⟨place, hplace, by simpa using h⟩
  · cases h

theorem hasFolder_of_makeFolder (h : tree.makeFolder path = .ok after) : after.HasFolder path := by
  obtain ⟨place, hplace, hnone, rfl⟩ := makeFolder_eq_ok h
  unfold resolve at hplace
  split at hplace
  · cases hplace
  · refine ⟨place, (spares_put_of_none .folder hnone []).follow hplace, ?_⟩
    rw [find?_put _ _ _ (isFixed_of_find?_eq_none hnone), if_pos rfl]

theorem hasFolder_of_makeFolderOnce (h : (tree.makeFolderOnce path).2 = .ok ()) :
    (tree.makeFolderOnce path).1.HasFolder path := by
  unfold makeFolderOnce at h ⊢
  rcases hmade : tree.makeFolder path with fault | made
  all_goals
    rw [hmade] at h
    dsimp only at h ⊢
  · split at h
    · next hfolder => exact hasFolder_of_isFolder hfolder
    · cases h
  · exact hasFolder_of_makeFolder hmade

theorem hasFolder_of_makeFolderIn {above : FileTree → Change}
    (h : (tree.makeFolderIn path above).2 = .ok ()) :
    (tree.makeFolderIn path above).1.HasFolder path := by
  unfold makeFolderIn at h ⊢
  split at h
  · split at h
    · exact hasFolder_of_makeFolderOnce h
    · next stopped hstopped =>
        -- what stopped above was no success
        exact (hstopped _ ⟨⟩ (Prod.ext rfl h)).elim
  · exact hasFolder_of_makeFolderOnce h

/-- **A folder that was made is there.** -/
theorem hasFolder_of_makeFolders (h : (tree.makeFolders path).2 = .ok ()) :
    (tree.makeFolders path).1.HasFolder path := by
  obtain ⟨slashes, parts⟩ := path
  unfold makeFolders at h ⊢
  cases parts with
  | nil => exact hasFolder_of_makeFolderIn h
  | cons part parts =>
      have htake : (part :: parts).take (parts.length + 1) = part :: parts := by simp
      rw [List.length_cons, makeFirst] at h ⊢
      simp only [htake] at h ⊢
      exact hasFolder_of_makeFolderIn h

/-! ### The place of a name in a folder -/

theorem follow_append {parts more : List String} {start place : Place}
    (h : tree.follow start parts = .ok place) :
    tree.follow start (parts ++ more) = tree.follow place more := by
  induction parts generalizing start with
  | nil =>
      obtain rfl : start = place := Except.ok.inj h
      rfl
  | cons part parts ih =>
      simp only [List.cons_append, follow] at h ⊢
      split at h
      · cases hstep : step start part with
        | error fault => simp [hstep, Except.bind] at h
        | ok next =>
            rw [hstep] at h
            exact ih h
      · cases h
      · cases h

/-- A name in a folder leads to a place, unless the name or the path is too long. -/
theorem exists_resolve_child (h : tree.HasFolder folder) {name : String} (hname : name ≠ "..")
    (hshort : name.utf8ByteSize ≤ maxName)
    (hpath : (folder.child name).text.utf8ByteSize ≤ maxPath) :
    ∃ place, tree.resolve (folder.child name) = .ok place := by
  obtain ⟨there, hthere, hfolder⟩ := h
  refine ⟨there ++ [name], ?_⟩
  have hstep : tree.follow there [name] = .ok (there ++ [name]) := by
    simp [follow, hfolder, step, hname, Nat.not_lt.mpr hshort, Except.bind]
  rw [resolve, if_neg (Nat.not_lt.mpr hpath)]
  exact (follow_append hthere).trans hstep

/-! ### Files that were written -/

/-- **A file was written, and nothing else happened** but that folders were made. -/
structure Writes (before after : FileTree) (place : Place) (content : Bytes) : Prop where
  file : after.find? place = some (.file content)
  others : ∀ other, other ≠ place → after.find? other = before.find? other ∨
    before.find? other = none ∧ after.find? other = some .folder

/-- What stands at a place is replaced by what is put there. -/
@[simp] theorem put_put (tree : FileTree) (place : Place) (first second : Entry) :
    (tree.put place first).put place second = tree.put place second := by
  simp [put, List.filter_filter]

theorem writes_put {place : Place} (h : AddsFolders before tree)
    (hfolder : tree.find? place ≠ some .folder)
    (content : Bytes) : Writes before (tree.put place (.file content)) place content := by
  have hfixed : isFixed place = false := isFixed_eq_false hfolder
  constructor
  · rw [find?_put _ _ _ hfixed, if_pos rfl]
  · intro other hother
    rw [find?_put _ _ _ hfixed, if_neg hother]
    exact h other

end FileTree

/-! ### Writing -/

namespace LocalHandler

variable {handler : LocalHandler}

/-- **The folder can keep a file under a key**: the folder is there or can be made, the path has a
proper length and no NUL, and it leads to no folder. -/
structure CanKeep (handler : LocalHandler) (key : String) (files : FileTree) : Prop where
  made : (files.makeFolders handler.root).2 = .ok ()
  noNul : handler.root.holdsNul = false
  short : (handler.root.child key).text.utf8ByteSize ≤ FileTree.maxPath
  free : (files.makeFolders handler.root).1.isFolder (handler.root.child key) = false

/-- The file of a key is opened. -/
theorem run_openFile_of_canKeep {site : Site} (u : Uid) (h : handler.CanKeep u.key site.files) :
    ∃ place, let made := (site.files.makeFolders handler.root).1
      made.resolve (handler.root.child u.key) = .ok place ∧ made.find? place ≠ some .folder ∧
        (openFile (handler.root.child u.key)).run site =
          (.ok place, { site with files := made.put place (.file []) }) := by
  have hshort : u.key.utf8ByteSize ≤ FileTree.maxName := by
    rw [u.utf8ByteSize_key]
    decide
  obtain ⟨place, hplace⟩ := FileTree.exists_resolve_child (FileTree.hasFolder_of_makeFolders h.made)
    (ne_dots_of_isPlain (isPlain_key u)) hshort h.short
  have hfolder : (site.files.makeFolders handler.root).1.find? place ≠ some .folder := by
    simpa [FileTree.isFolder, hplace] using h.free
  refine ⟨place, hplace, hfolder, ?_⟩
  have hopen : (site.files.makeFolders handler.root).1.openNew (handler.root.child u.key) =
      .ok (place, (site.files.makeFolders handler.root).1.put place (.file [])) := by
    refine FileTree.visit_eq_ok_iff.mpr ⟨by rw [FilePath.holdsNul_child_key, h.noNul], place,
      hplace, ?_⟩
    rcases hfound : (site.files.makeFolders handler.root).1.find? place with _ | _ | content
    · rfl
    · exact absurd hfound hfolder
    · rfl
  rcases hmade : site.files.makeFolders handler.root with ⟨made, outcome⟩
  rw [hmade] at hopen
  obtain rfl : outcome = .ok () := by simpa [hmade] using h.made
  simp only [run_openFile, FilePath.parent_child, hmade, hopen]

/-- **What was read is written**, whether or not reading came to its end, and nothing else is. -/
theorem run_write {site : Site} (u : Uid) (h : handler.CanKeep u.key site.files) (source : Source) :
    ∃ place files, files.resolve (handler.root.child u.key) = .ok place ∧
      site.files.Writes files place source.rest ∧
      (write (handler.root.child u.key) source).run site =
        (match source.fault with
          | some fault => .error fault
          | none => .ok ((Hasher.of source).drain pieceSize).2.2, { site with files }) := by
  obtain ⟨place, hplace, hfolder, hopen⟩ := run_openFile_of_canKeep u h
  have hspares := FileTree.spares_put (.file source.rest) hfolder
    (FileTree.getLast?_of_resolve_child (ne_dots_of_isPlain (isPlain_key u)) hplace)
  refine ⟨place, _, hspares.resolve hplace,
    FileTree.writes_put (FileTree.addsFolders_makeFolders _ _) hfolder source.rest, ?_⟩
  obtain ⟨hbytes, hfault, -⟩ := Hasher.drain_of source pieceSize_pos (takes_pieceSize source)
  rcases hdrain : (Hasher.of source).drain pieceSize with ⟨content, fault, reader⟩
  rw [hdrain] at hbytes hfault
  obtain rfl : content = source.rest := hbytes
  obtain rfl : fault = source.fault := hfault
  simp only [write, StateM.run_bind, hopen, hdrain]
  cases source.fault <;> simp <;> rfl

/-- What a transfer comes to if all of the source is read. -/
def stored (handler : LocalHandler) (record : Record) (content : Bytes) : Transfer where
  record := { record with location := record.key, etag := Digest.Md5.hexDigest content }
  outcome := .ok ⟨Handler.urlOf handler.config.toServeConfig record, content.length⟩

/-- **A transfer that can be kept** writes what it reads; the record learns of it only if all was
read. -/
theorem run_transfer_of_canKeep {site : Site} (record : Record)
    (h : handler.CanKeep record.key site.files) (source : Source) :
    ∃ place files, files.resolve (handler.root.child record.key) = .ok place ∧
      site.files.Writes files place source.rest ∧
      (handler.transfer record source).run site =
        (match source.fault with
          | some fault => ⟨record, .error (uploadFailure record.key fault)⟩
          | none => handler.stored record source.rest, { site with files }) := by
  obtain ⟨place, files, hplace, hwrites, hrun⟩ := run_write record.uid h source
  obtain ⟨-, -, hreader⟩ := Hasher.drain_of source pieceSize_pos (takes_pieceSize source)
  refine ⟨place, files, hplace, hwrites, ?_⟩
  rw [run_transfer, show (write (handler.root.child record.key) source).run site = _ from hrun]
  cases hfault : source.fault with
  | some fault => rfl
  | none =>
      obtain ⟨hcount, hdigest⟩ := hreader hfault
      simp only [stored, hcount, hdigest]

/-- **What an upload leaves behind**: its row comes last, the file of its key has this content, and
everything else is as it was, but for folders on the way that were missing. -/
structure Leaves (handler : LocalHandler) (record : Record) (before after : Depot)
    (content : Bytes) : Prop where
  records : after.records = before.records.append (record.begun before.site.epoch)
  row : after.records.look record.id = .ok (some (record.begun before.site.epoch))
  file : handler.content record.key after.site.files = .ok content
  others : ∃ place, after.site.files.resolve (handler.root.child record.key) = .ok place ∧
    before.site.files.Writes after.site.files place content

/-- **An upload under a free identifier** to a folder that can keep the file. -/
theorem run_upload_of_canKeep {record : Record} {depot : Depot}
    (free : depot.records.isTaken record.id = false)
    (h : handler.CanKeep record.key depot.site.files)
    (source : Source) :
    let begun := record.begun depot.site.epoch
    let done := ((Handler.files handler).upload record source).run depot
    handler.Leaves record depot done.2 source.rest ∧
      done.1 = match source.fault with
        | some fault => ⟨begun, .error (uploadFailure record.key fault)⟩
        | none => handler.stored begun source.rest := by
  intro begun done
  obtain ⟨site, hnoted, hrun⟩ := (Handler.files handler).run_upload_of_free record source free
  rw [← hnoted.files] at h
  obtain ⟨place, files, hplace, hwrites, htransfer⟩ :=
    run_transfer_of_canKeep begun h source
  have hdone : done = (_, ⟨depot.records.append begun, { site with files }⟩) := hrun.trans
    (congrArg (fun moved : Transfer × Site =>
      (moved.1, (⟨depot.records.append begun, moved.2⟩ : Depot))) htransfer)
  rw [hnoted.files] at hwrites
  have hnul : (handler.root.child record.key).holdsNul = false := by
    rw [Record.key, FilePath.holdsNul_child_key, h.noNul]
  have hread : files.read (handler.root.child record.key) = .ok source.rest :=
    FileTree.read_eq_ok_iff.mpr ⟨hnul, place, hplace, hwrites.file⟩
  rw [hdone]
  exact ⟨⟨rfl, RecordStore.look_append free, handler.content_eq_ok_iff.mpr ⟨isPlain_key _, hread⟩,
    place, hplace, hwrites⟩, rfl⟩

/-- **An upload to a folder is exact, and its failure leaves the record alone.** If the source is
read to its end, then all of it is counted, digested and written, and the record knows where. If
reading fails at some offset, then just what comes before is written, and the record is the one that
was entered. -/
theorem upload_exact (handler : LocalHandler) {record : Record} {depot : Depot}
    (free : depot.records.isTaken record.id = false)
    (keeps : handler.CanKeep record.key depot.site.files) :
    let begun := record.begun depot.site.epoch
    let upload (source : Source) := ((Handler.files handler).upload record source).run depot
    (begun.status = .pending ∧ begun.location = record.location ∧ begun.etag = record.etag) ∧
      (∀ source : Source, source.fault = none →
        handler.Leaves record depot (upload source).2 source.rest ∧
          (upload source).1.record =
            { begun with location := record.key, etag := Digest.Md5.hexDigest source.rest } ∧
          (upload source).1.outcome =
            .ok ⟨handler.config.serveUrl ++ record.fileName, source.rest.length⟩) ∧
      ∀ (bytes : Bytes) (offset : Nat) (fault : Fault), offset ≤ bytes.length →
        let source := Source.failing bytes offset fault
        handler.Leaves record depot (upload source).2 (bytes.take offset) ∧
          (upload source).1.record = begun ∧
          (upload source).1.outcome = .error
            (if fault.isInputOutput then .backend "upload" record.key fault else .fault fault) := by
  intro begun upload
  refine ⟨⟨rfl, rfl, rfl⟩, fun source hfault => ?_, fun bytes offset fault hoffset => ?_⟩
  · obtain ⟨hleaves, hdone⟩ := run_upload_of_canKeep free keeps source
    rw [hfault] at hdone
    exact ⟨hleaves, congrArg Transfer.record hdone, congrArg Transfer.outcome hdone⟩
  · have hsource : Source.failing bytes offset fault = ⟨bytes.take offset, some fault, false⟩ := by
      simp [Source.failing, hoffset]
    rw [hsource]
    obtain ⟨hleaves, hdone⟩ :=
      run_upload_of_canKeep free keeps ⟨bytes.take offset, some fault, false⟩
    exact ⟨hleaves, congrArg Transfer.record hdone, congrArg Transfer.outcome hdone⟩

/-- A file of another upload stands at the place. One more upload replaces it, by all of `abc` or,
if reading breaks off there, by the first two letters. -/
theorem upload_exact_over_file :
    let record : Record := { id := "BQAAAAAAAAA", mimeType := "text/plain" }
    let handler : LocalHandler := {}
    let path := handler.root.child record.key
    let depot : Depot := ⟨.memory {}, { files := (FileTree.makeFile {} path [1, 2, 3, 4]).1 }⟩
    let upload (source : Source) := ((Handler.files handler).upload record source).run depot
    depot.records.isTaken record.id = false ∧ handler.CanKeep record.key depot.site.files ∧
      (handler.content record.key depot.site.files).toOption = some [1, 2, 3, 4] ∧
      (handler.Leaves record depot (upload (.ofBytes [97, 98, 99])).2 [97, 98, 99] ∧
        (upload (.ofBytes [97, 98, 99])).1.outcome =
          .ok ⟨"/v0/file/s/BQAAAAAAAAA.txt", 3⟩) ∧
      handler.Leaves record depot
        (upload (.failing [97, 98, 99] 2 (.io "connection reset"))).2 [97, 98] ∧
      (upload (.failing [97, 98, 99] 2 (.state "no more"))).1.outcome =
        .error (.fault (.state "no more")) := by
  intro record handler path depot upload
  have free : depot.records.isTaken record.id = false := by decide +kernel
  have hmade : ((depot.site.files.makeFolders handler.root).2).toOption = some () := by
    decide +kernel
  have keeps : handler.CanKeep record.key depot.site.files :=
    ⟨ok_of_toOption hmade, by decide +kernel, by decide +kernel, by decide +kernel⟩
  have hname : handler.config.serveUrl ++ record.fileName = "/v0/file/s/BQAAAAAAAAA.txt" := by
    decide +kernel
  obtain ⟨-, hwhole, hbroken⟩ := upload_exact handler free keeps
  obtain ⟨hleaves, -, hsize⟩ := hwhole (.ofBytes [97, 98, 99]) rfl
  rw [hname, show (Source.ofBytes [97, 98, 99]).rest.length = 3 from rfl] at hsize
  obtain ⟨hpart, -, -⟩ := hbroken [97, 98, 99] 2 (.io "connection reset") (by decide)
  obtain ⟨-, -, hraised⟩ := hbroken [97, 98, 99] 2 (.state "no more") (by decide)
  rw [if_neg (by decide)] at hraised
  simp only [Int.cast_ofNat_Int] at hpart hraised
  dsimp only [upload]
  exact ⟨free, keeps, by decide +kernel, ⟨hleaves, hsize⟩, hpart, hraised⟩

end LocalHandler

end MediaDepot
