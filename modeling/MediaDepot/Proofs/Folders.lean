import MediaDepot.Proofs.Transfers

/-!
# MediaDepot.Proofs.Folders

**Once there is a folder for files, bringing one more there changes nothing else.** A transfer makes
the folder of its file if that is missing, and then it is hard to say what else can be read: a path
through folders that were missing leads somewhere all at once. But a folder that is there stays
(`FileTree.HasFolder.of_spares`), nothing is made any more (`makeFolders_of_hasFolder`), and so a
transfer adds at most the file of its own key (`LocalHandler.transfer_spares_before`).
-/

namespace MediaDepot

namespace FileTree

/-- The path leads to a folder. -/
def HasFolder (tree : FileTree) (path : FilePath) : Prop :=
  ∃ place, tree.follow (if path.slashes = 0 then top else []) path.parts = .ok place ∧
    tree.find? place = some .folder

variable {tree before after : FileTree} {path : FilePath} {names : List String}

theorem HasFolder.of_spares (h : before.HasFolder path) (hspares : Spares names before after) :
    after.HasFolder path := by
  obtain ⟨place, hplace, hfolder⟩ := h
  exact ⟨place, hspares.follow hplace, hspares place .folder hfolder (.inl rfl)⟩

/-- What a path goes on from is a folder. -/
theorem find?_of_follow_append {parts : List String} {name : String} {start place folder : Place}
    (h : tree.follow start (parts ++ [name]) = .ok place)
    (hfolder : tree.follow start parts = .ok folder) :
    tree.find? folder = some .folder := by
  induction parts generalizing start with
  | nil =>
      obtain rfl : start = folder := Except.ok.inj hfolder
      simp only [List.nil_append, follow] at h
      split at h
      · assumption
      · cases h
      · cases h
  | cons part parts ih =>
      simp only [List.cons_append, follow] at h hfolder
      split at h
      · next hstart =>
          rw [hstart] at hfolder
          cases hstep : step start part with
          | error fault => simp [hstep, Except.bind] at h
          | ok next =>
              rw [hstep] at h hfolder
              exact ih h hfolder
      · cases h
      · cases h

/-- A file that can be read lies in a folder. -/
theorem hasFolder_of_read {folder : FilePath} {name : String} {content : Bytes}
    (h : tree.read (folder.child name) = .ok content) : tree.HasFolder folder := by
  obtain ⟨-, place, hplace, -⟩ := read_eq_ok_iff.mp h
  unfold resolve at hplace
  split at hplace
  · cases hplace
  · obtain ⟨there, hthere, -⟩ := follow_append_singleton hplace
    exact ⟨there, hthere, find?_of_follow_append hplace hthere⟩

/-! ### Making a folder that is there -/

/-- A folder that is there is not made, and nothing above it is missing. -/
theorem makeFolder_of_hasFolder (h : tree.HasFolder path) :
    ∃ fault, tree.makeFolder path = .error fault ∧ ∀ text, fault ≠ .path .missing text := by
  obtain ⟨place, hplace, hfolder⟩ := h
  unfold makeFolder visit
  split
  · exact ⟨_, rfl, by simp⟩
  · unfold resolve
    split
    · exact ⟨_, rfl, by simp⟩
    · rw [hplace]
      simp only [Except.bind, hfolder, atPath]
      exact ⟨_, rfl, by simp⟩

theorem makeFolderIn_of_hasFolder (h : tree.HasFolder path) (above : FileTree → Change) :
    (tree.makeFolderIn path above).1 = tree := by
  obtain ⟨fault, hmade, hmissing⟩ := makeFolder_of_hasFolder h
  have honce : (tree.makeFolderOnce path).1 = tree := by rw [makeFolderOnce, hmade]
  unfold makeFolderIn
  split
  · next text hfound => exact absurd (Except.error.inj (hmade.symm.trans hfound)) (hmissing text)
  · exact honce

/-- **A folder that is there is left as it is**, with all files. -/
theorem makeFolders_of_hasFolder (h : tree.HasFolder path) : (tree.makeFolders path).1 = tree := by
  obtain ⟨slashes, parts⟩ := path
  unfold makeFolders
  cases parts with
  | nil => exact makeFolderIn_of_hasFolder h _
  | cons part parts =>
      have htake : (part :: parts).take (parts.length + 1) = part :: parts := by simp
      rw [List.length_cons, makeFirst]
      simp only [htake]
      exact makeFolderIn_of_hasFolder h _

/-- Putting a file where no folder stands adds nothing of other names. -/
theorem spares_before_put {place : Place} {name : String} (content : Bytes)
    (h : tree.find? place ≠ some .folder) (hname : place.getLast? = some name) :
    Spares [name] (tree.put place (.file content)) tree := by
  intro other found hfind hother
  rw [find?_put tree _ other (isFixed_eq_false h)] at hfind
  split at hfind
  · next hsame =>
      -- what was put is a file, and has the name
      obtain rfl := Option.some.inj hfind
      rcases hother with hfolder | hother
      · cases hfolder
      · exact absurd (hsame ▸ hname) (hother name List.mem_cons_self)
  · exact hfind

end FileTree

@[simp] theorem FilePath.parent_child (folder : FilePath) (name : String) :
    (folder.child name).parent = folder := by
  simp [child, parent]

/-! ### Bringing a file to a folder that is there -/

namespace LocalHandler

variable (handler : LocalHandler)

theorem openFile_spares_before {folder : FilePath} {site : Site}
    (h : site.files.HasFolder folder) {name : String} (hname : name ≠ "..") :
    FileTree.Spares [name] ((openFile (folder.child name)).run site).2.files site.files := by
  rw [run_openFile, FilePath.parent_child]
  have hsame := FileTree.makeFolders_of_hasFolder h
  rcases hmade : site.files.makeFolders folder with ⟨made, fault | done⟩
  all_goals
    rw [hmade] at hsame
    obtain rfl : made = site.files := hsame
  · exact .refl _ _
  · rcases hopen : site.files.openNew (folder.child name) with fault | ⟨place, opened⟩
    · simp only [hopen]
      exact .refl _ _
    · obtain ⟨-, hplace, hfolder, rfl⟩ := FileTree.openNew_eq_ok hopen
      simp only [hopen]
      exact FileTree.spares_before_put [] hfolder (FileTree.getLast?_of_resolve_child hname hplace)

theorem write_spares_before {folder : FilePath} {site : Site} (h : site.files.HasFolder folder)
    {name : String} (hname : name ≠ "..") (source : Source) :
    FileTree.Spares [name] ((write (folder.child name) source).run site).2.files site.files := by
  have hspares := openFile_spares_before h hname
  obtain ⟨opened, hafter, -, hopened⟩ := openFile_spec folder hname site
  rw [hafter] at hspares
  rw [write, StateM.run_bind, hafter]
  cases hopen : ((openFile (folder.child name)).run site).1 with
  | error fault => exact hspares
  | ok place =>
      obtain ⟨-, hplace, hempty⟩ := hopened place hopen
      rcases hdrain : (Hasher.of source).drain pieceSize with ⟨content, fault, hasher⟩
      have hfolder : opened.find? place ≠ some .folder := by simp [hempty]
      have hput := FileTree.spares_before_put content hfolder
        (FileTree.getLast?_of_resolve_child hname hplace)
      cases fault <;> exact hput.trans hspares

/-- **A transfer to a folder that is there** adds at most the file of its key. -/
theorem transfer_spares_before {site : Site} (h : site.files.HasFolder handler.root)
    (record : Record) (source : Source) :
    FileTree.Spares [record.key] ((handler.transfer record source).run site).2.files
      site.files := by
  have hplain : isPlain record.key = true := isPlain_key record.uid
  rw [run_transfer]
  dsimp only
  exact write_spares_before h (ne_dots_of_isPlain hplain) source

end LocalHandler

end MediaDepot
