import MediaDepot.Files.Tree

/-!
# MediaDepot.Proofs.Places

**What work on some files leaves alone.** A change `Spares` everything but the files of certain
names: folders stay folders, and a file whose name is not among them stays what it is. Making
folders spares all files, and putting or deleting a file spares those of other names.

A path leads to a place through folders alone. Since these stay, it leads to the same place
afterwards (`Spares.resolve`), and a file of another name is read as before (`Spares.read_child`).
-/

namespace MediaDepot

namespace FileTree

/-! ### Looking at one place -/

theorem isFixed_eq_false {tree : FileTree} {place : Place}
    (h : tree.find? place ≠ some .folder) : isFixed place = false := by
  cases hf : isFixed place with
  | false => rfl
  | true => exact absurd (by simp [find?, hf]) h

theorem isFixed_of_find?_eq_none {tree : FileTree} {place : Place} (h : tree.find? place = none) :
    isFixed place = false :=
  isFixed_eq_false fun hfolder => nomatch h.symm.trans hfolder

/-- A visit succeeds where the path leads somewhere and the work there succeeds. -/
theorem visit_eq_ok_iff {α : Type} {tree : FileTree} {path : FilePath}
    {act : Place → Except PathFault α} {a : α} :
    tree.visit path act = .ok a ↔
      path.holdsNul = false ∧ ∃ place, tree.resolve path = .ok place ∧ act place = .ok a := by
  unfold visit
  cases hnul : path.holdsNul with
  | true => simp
  | false =>
      cases hplace : tree.resolve path with
      | error fault => simp [atPath, Except.bind]
      | ok place =>
          cases hact : act place with
          | error fault => simp [atPath, Except.bind, hact]
          | ok b => simp [atPath, Except.bind, hact]

theorem read_eq_ok_iff {tree : FileTree} {path : FilePath} {content : Bytes} :
    tree.read path = .ok content ↔
      path.holdsNul = false ∧
        ∃ place, tree.resolve path = .ok place ∧ tree.find? place = some (.file content) := by
  rw [read, visit_eq_ok_iff]
  refine and_congr_right fun _ => exists_congr fun place => and_congr_right fun _ => ?_
  cases tree.find? place with
  | none => simp
  | some entry => cases entry <;> simp

/-- Opening a new file puts an empty one where no folder stands. -/
theorem openNew_eq_ok {tree after : FileTree} {path : FilePath} {place : Place}
    (h : tree.openNew path = .ok (place, after)) :
    path.holdsNul = false ∧ tree.resolve path = .ok place ∧
      tree.find? place ≠ some .folder ∧ after = tree.put place (.file []) := by
  obtain ⟨hnul, there, hplace, hact⟩ := visit_eq_ok_iff.mp h
  split at hact
  · cases hact
  · next hfolder =>
      simp only [Except.ok.injEq, Prod.mk.injEq] at hact
      obtain ⟨rfl, rfl⟩ := hact
      exact ⟨hnul, hplace, hfolder, rfl⟩

/-- Deleting takes a file away. -/
theorem remove_eq_ok {tree after : FileTree} {path : FilePath} (h : tree.remove path = .ok after) :
    ∃ place, tree.resolve path = .ok place ∧ tree.find? place ≠ some .folder ∧
      after = tree.erase place := by
  obtain ⟨-, place, hplace, hact⟩ := visit_eq_ok_iff.mp h
  refine ⟨place, hplace, ?_⟩
  split at hact
  · next hfile => exact ⟨by simp [hfile], (Except.ok.inj hact).symm⟩
  · cases hact
  · cases hact

/-! ### Changes that spare other files -/

/-- Folders stay, and so do the files of all other names. -/
def Spares (names : List String) (before after : FileTree) : Prop :=
  ∀ place entry, before.find? place = some entry →
    (entry = .folder ∨ ∀ name ∈ names, place.getLast? ≠ some name) →
      after.find? place = some entry

namespace Spares

variable {names : List String} {first second third : FileTree}

theorem refl (names : List String) (tree : FileTree) : Spares names tree tree :=
  fun _ _ h _ => h

theorem trans (h : Spares names first second) (h' : Spares names second third) :
    Spares names first third :=
  fun place entry hfind hname => h' place entry (h place entry hfind hname) hname

theorem mono {more : List String} (h : Spares names first second)
    (hsub : ∀ name ∈ names, name ∈ more) : Spares more first second :=
  fun place entry hfind hname =>
    h place entry hfind (hname.imp_right fun hother name hmem => hother name (hsub name hmem))

end Spares

/-- Putting something where nothing stands spares everything. -/
theorem spares_put_of_none {tree : FileTree} {place : Place} (entry : Entry)
    (h : tree.find? place = none) (names : List String) :
    Spares names tree (tree.put place entry) := by
  intro other found hfind _
  -- something stands at the other place, so it is not the one where nothing stands
  have hne : other ≠ place := by
    rintro rfl
    rw [h] at hfind
    cases hfind
  rw [find?_put tree entry other (isFixed_of_find?_eq_none h), if_neg hne, hfind]

/-- Putting something where no folder stands spares the files of other names. -/
theorem spares_put {tree : FileTree} {place : Place} {name : String} (entry : Entry)
    (h : tree.find? place ≠ some .folder) (hname : place.getLast? = some name) :
    Spares [name] tree (tree.put place entry) := by
  intro other found hfind hother
  have hne : other ≠ place := by
    rintro rfl
    rcases hother with rfl | hother
    · exact h hfind
    · exact hother name (by simp) hname
  rw [find?_put tree entry other (isFixed_eq_false h), if_neg hne, hfind]

/-- Taking a file away spares the files of other names. -/
theorem spares_erase {tree : FileTree} {place : Place} {name : String}
    (h : tree.find? place ≠ some .folder) (hname : place.getLast? = some name) :
    Spares [name] tree (tree.erase place) := by
  intro other found hfind hother
  have hne : other ≠ place := by
    rintro rfl
    rcases hother with rfl | hother
    · exact h hfind
    · exact hother name (by simp) hname
  rw [find?_erase tree other (isFixed_eq_false h), if_neg hne, hfind]

/-- Taking a file away adds nothing: whatever stands there afterwards stood there before. -/
theorem spares_of_erase {tree : FileTree} {place : Place} (h : tree.find? place ≠ some .folder) :
    Spares [] (tree.erase place) tree := by
  intro other found hfind _
  rw [find?_erase tree other (isFixed_eq_false h)] at hfind
  split at hfind
  · cases hfind
  · exact hfind

/-! ### Making folders -/

/-- Making a folder puts it where nothing stands. -/
theorem makeFolder_eq_ok {tree after : FileTree} {path : FilePath}
    (h : tree.makeFolder path = .ok after) :
    ∃ place, tree.resolve path = .ok place ∧ tree.find? place = none ∧
      after = tree.put place .folder := by
  obtain ⟨-, place, hplace, hact⟩ := visit_eq_ok_iff.mp h
  split at hact
  · cases hact
  · next hnone => exact ⟨place, hplace, hnone, (Except.ok.inj hact).symm⟩

section MakingFolders

variable {related : FileTree → FileTree → Prop} (hrefl : ∀ tree, related tree tree)
  (htrans : ∀ {first second third}, related first second → related second third →
    related first third)
  (hput : ∀ {tree place}, find? tree place = none → related tree (tree.put place .folder))

include hrefl hput in
theorem makeFolderOnce_related (tree : FileTree) (path : FilePath) :
    related tree (tree.makeFolderOnce path).1 := by
  unfold makeFolderOnce
  cases hmade : tree.makeFolder path with
  | ok after =>
      obtain ⟨place, -, hnone, rfl⟩ := makeFolder_eq_ok hmade
      exact hput hnone
  | error fault => exact hrefl tree

include hrefl htrans hput in
theorem makeFolderIn_related (tree : FileTree) (path : FilePath) {above : FileTree → Change}
    (habove : ∀ tree, related tree (above tree).1) :
    related tree (tree.makeFolderIn path above).1 := by
  unfold makeFolderIn
  split
  · have hup := habove tree
    split
    · next after _ hdone =>
        rw [hdone] at hup
        exact htrans hup (makeFolderOnce_related hrefl hput after path)
    · exact hup
  · exact makeFolderOnce_related hrefl hput tree path

include hrefl htrans hput in
/-- **What one new folder does to a tree, many do**, also when making them stops half way. -/
theorem makeFolders_related (tree : FileTree) (path : FilePath) :
    related tree (tree.makeFolders path).1 := by
  -- from the root down, however many folders are missing
  have hfirst : ∀ n tree, related tree (makeFirst path n tree).1 := by
    intro n
    induction n with
    | zero => exact fun tree => makeFolderIn_related hrefl htrans hput tree _ hrefl
    | succ n ih => exact fun tree => makeFolderIn_related hrefl htrans hput tree _ ih
  exact hfirst _ tree

end MakingFolders

/-- **Making folders spares every file.** -/
theorem spares_makeFolders (tree : FileTree) (path : FilePath) (names : List String) :
    Spares names tree (tree.makeFolders path).1 :=
  makeFolders_related (Spares.refl names) Spares.trans
    (fun hnone => spares_put_of_none .folder hnone names) tree path

/-! ### Where a path leads -/

/-- Going on by one more name goes through a folder. -/
theorem follow_append_singleton {tree : FileTree} {parts : List String} {name : String} :
    ∀ {start place : Place}, tree.follow start (parts ++ [name]) = .ok place →
      ∃ folder, tree.follow start parts = .ok folder ∧ step folder name = .ok place := by
  induction parts with
  | nil =>
      intro start place h
      refine ⟨start, rfl, ?_⟩
      simp only [List.nil_append, follow] at h
      split at h
      · cases hstep : step start name with
        | error fault => simp [hstep, Except.bind] at h
        | ok next => simpa [hstep, Except.bind, follow] using h
      · cases h
      · cases h
  | cons part parts ih =>
      intro start place h
      simp only [List.cons_append, follow] at h ⊢
      split at h
      · cases hstep : step start part with
        | error fault => simp [hstep, Except.bind] at h
        | ok next =>
            rw [hstep] at h
            exact ih h
      · cases h
      · cases h

theorem getLast?_of_step {folder place : Place} {name : String} (hname : name ≠ "..")
    (h : step folder name = .ok place) : place.getLast? = some name := by
  unfold step at h
  rw [if_neg hname] at h
  split at h
  · cases h
  · obtain rfl := Except.ok.inj h
    exact List.getLast?_concat

/-- The place of a name in a folder ends with this name. -/
theorem getLast?_of_resolve_child {tree : FileTree} {folder : FilePath} {name : String}
    {place : Place} (hname : name ≠ "..") (h : tree.resolve (folder.child name) = .ok place) :
    place.getLast? = some name := by
  unfold resolve at h
  split at h
  · cases h
  · obtain ⟨there, -, hstep⟩ := follow_append_singleton h
    exact getLast?_of_step hname hstep

namespace Spares

variable {names : List String} {before after : FileTree}

theorem follow (h : Spares names before after) {parts : List String} :
    ∀ {start place : Place}, before.follow start parts = .ok place →
      after.follow start parts = .ok place := by
  induction parts with
  | nil => exact fun hplace => hplace
  | cons part parts ih =>
      intro start place hplace
      simp only [FileTree.follow] at hplace ⊢
      split at hplace
      · -- the path goes on through a folder, which stays one
        next hfolder =>
          rw [h start .folder hfolder (Or.inl rfl)]
          cases hstep : step start part with
          | error fault => simp [hstep, Except.bind] at hplace
          | ok next =>
              rw [hstep] at hplace
              exact ih hplace
      · cases hplace
      · cases hplace

/-- **A path leads where it led before.** -/
theorem resolve (h : Spares names before after) {path : FilePath} {place : Place}
    (hplace : before.resolve path = .ok place) : after.resolve path = .ok place := by
  unfold FileTree.resolve at hplace ⊢
  split at hplace
  · cases hplace
  · next hlong =>
      rw [if_neg hlong]
      exact h.follow hplace

/-- **A file of another name is read as before.** -/
theorem read_child (h : Spares names before after) {folder : FilePath} {name : String}
    {content : Bytes} (hname : name ≠ "..") (hother : name ∉ names)
    (hread : before.read (folder.child name) = .ok content) :
    after.read (folder.child name) = .ok content := by
  obtain ⟨hnul, place, hplace, hfile⟩ := read_eq_ok_iff.mp hread
  have hlast := getLast?_of_resolve_child hname hplace
  refine read_eq_ok_iff.mpr ⟨hnul, place, h.resolve hplace, h place _ hfile (Or.inr ?_)⟩
  intro other hmem heq
  obtain rfl : name = other := Option.some.inj (hlast.symm.trans heq)
  exact hother hmem

end Spares

/-! ### Files that are deleted -/

/-- A file that can be read can be deleted. -/
theorem remove_of_read {tree : FileTree} {path : FilePath} {content : Bytes}
    (h : tree.read path = .ok content) : ∃ after, tree.remove path = .ok after := by
  obtain ⟨hnul, place, hplace, hfile⟩ := read_eq_ok_iff.mp h
  exact ⟨tree.erase place, visit_eq_ok_iff.mpr ⟨hnul, place, hplace, by simp [hfile]⟩⟩

/-- A file that was deleted is not read any more. -/
theorem read_of_remove {tree after : FileTree} {path : FilePath} (h : tree.remove path = .ok after)
    (content : Bytes) : after.read path ≠ .ok content := by
  intro hread
  obtain ⟨place, hplace, hfolder, rfl⟩ := remove_eq_ok h
  obtain ⟨-, there, hthere, hfile⟩ := read_eq_ok_iff.mp hread
  -- the path led to the same place before
  have hsame := (spares_of_erase hfolder).resolve hthere
  obtain rfl : place = there := Except.ok.inj (hplace.symm.trans hsame)
  rw [find?_erase _ _ (isFixed_eq_false hfolder), if_pos rfl] at hfile
  cases hfile

end FileTree

end MediaDepot
