import MediaDepot.Proofs.FolderUploads

/-!
# MediaDepot.Proofs.FolderDeletion

**A deletion stays in its folder and leaves nothing undone.** The path of a location leads to a file
of the folder or nowhere (`FileTree.exists_of_resolve_child`). Deleting one file changes neither
where the paths of other locations lead (`FileTree.FolderAt.resolve_child`) nor what is there
(`FileTree.fileAt_erase`), and the same file is missing when it is to be deleted again. So what
becomes of a location depends on the tree before the deletion only: by induction on the locations,
the deletion takes away just the files that can be deleted (`LocalHandler.fst_deleteAll`) and
reports just what keeps the others (`LocalHandler.snd_deleteAll`), in whatever order they come.
-/

namespace MediaDepot

instance : DecidablePred IsFileName := fun text =>
  decidable_of_iff (text ≠ "" ∧ '/' ∉ text.toList ∧ text ≠ "." ∧ text ≠ "..")
    ⟨fun ⟨hempty, hslash, hpoint, hpoints⟩ => ⟨hempty, hslash, hpoint, hpoints⟩,
      fun h => ⟨h.ne_empty, h.no_slash, h.ne_point, h.ne_points⟩⟩

namespace Fault

/-- Is there nothing where something was looked for? -/
def isAbsence : Fault → Bool
  | .path .missing _ => true
  | _ => false

/-- The code under which a file is reported that could not be deleted. -/
def deletionCode : Fault → String
  | .path fault _ => fault.code
  | _ => "InvalidKey"

end Fault

namespace FileTree

variable {tree : FileTree} {path folder : FilePath} {name : String} {place there : Place}

/-! ### The file that a path leads to -/

/-- The place of the file that a path leads to, or why there is none. -/
def fileAt (tree : FileTree) (path : FilePath) : Except Fault Place :=
  tree.visit path fun place =>
    match tree.find? place with
    | some (.file _) => .ok place
    | some .folder => .error .isFolder
    | none => .error .missing

theorem fileAt_eq_ok_iff :
    tree.fileAt path = .ok place ↔
      path.holdsNul = false ∧ tree.resolve path = .ok place ∧
        ∃ content, tree.find? place = some (.file content) := by
  rw [fileAt, visit_eq_ok_iff]
  refine and_congr_right fun _ => ⟨?_, ?_⟩
  · rintro ⟨found, hplace, hact⟩
    split at hact
    · next content hfile =>
        obtain rfl := Except.ok.inj hact
        exact ⟨hplace, content, hfile⟩
    · cases hact
    · cases hact
  · rintro ⟨hplace, content, hfile⟩
    exact ⟨place, hplace, by rw [hfile]⟩

/-- Deleting takes the file away that the path leads to. -/
theorem remove_eq (tree : FileTree) (path : FilePath) :
    tree.remove path = (tree.fileAt path).map tree.erase := by
  unfold remove fileAt visit
  split
  · rfl
  · rcases tree.resolve path with fault | place
    · rfl
    · rcases hfound : tree.find? place with _ | _ | content <;>
        simp [Except.bind, atPath, hfound, Except.map]

/-- What keeps a path from leading to a file is a matter of the path, or of a NUL in it. -/
theorem of_fileAt_eq_error {fault : Fault} (h : tree.fileAt path = .error fault) :
    fault = .value .nulInPath ∨ ∃ trouble, fault = .path trouble path.text := by
  unfold fileAt visit at h
  split at h
  · exact .inl (Except.error.inj h).symm
  · unfold atPath at h
    split at h
    · cases h
    · exact .inr ⟨_, (Except.error.inj h).symm⟩

/-! ### The files of a folder -/

/-- The path leads to the folder at this place. -/
structure FolderAt (tree : FileTree) (path : FilePath) (place : Place) : Prop where
  leads : tree.follow (if path.slashes = 0 then top else []) path.parts = .ok place
  isFolder : tree.find? place = some .folder

/-- **A name in a folder leads to a child of that folder**, if it leads anywhere. -/
theorem exists_of_resolve_child (hname : name ≠ "..")
    (h : tree.resolve (folder.child name) = .ok place) :
    ∃ there, tree.FolderAt folder there ∧ place = there ++ [name] := by
  unfold resolve at h
  split at h
  · cases h
  · obtain ⟨there, hthere, hstep⟩ := follow_append_singleton h
    refine ⟨there, ⟨hthere, find?_of_follow_append h hthere⟩, ?_⟩
    unfold step at hstep
    rw [if_neg hname] at hstep
    split at hstep
    · cases hstep
    · exact (Except.ok.inj hstep).symm

/-- Where a name in a folder leads depends on the place of the folder and on nothing else. -/
theorem FolderAt.resolve_child (h : tree.FolderAt folder there) (name : String) :
    tree.resolve (folder.child name) =
      if maxPath < (folder.child name).text.utf8ByteSize then .error .nameTooLong
      else step there name := by
  have hstep : tree.follow there [name] = step there name := by
    rw [follow, h.isFolder]
    cases step there name <;> rfl
  unfold resolve
  split
  · rfl
  · exact (follow_append h.leads).trans hstep

/-- A folder stays where it is when a file is taken away. -/
theorem FolderAt.erase (h : tree.FolderAt folder there) (hplace : tree.find? place ≠ some .folder)
    (hname : place.getLast? = some name) : (tree.erase place).FolderAt folder there := by
  have hspares := spares_erase hplace hname
  exact ⟨hspares.follow h.leads, hspares there .folder h.isFolder (.inl rfl)⟩

/-- **When a file of the folder is gone**, the paths of all files lead where they led before, and
nothing is left at its place. -/
theorem fileAt_erase (hname : name ≠ "..") (h : tree.fileAt (folder.child name) = .ok place)
    (other : String) :
    (tree.erase place).fileAt (folder.child other) =
      (tree.fileAt (folder.child other)).bind fun found =>
        if found = place then .error (.path .missing (folder.child other).text) else .ok found := by
  obtain ⟨-, hleads, content, hfile⟩ := fileAt_eq_ok_iff.mp h
  have hfolder : tree.find? place ≠ some .folder := by simp [hfile]
  obtain ⟨there, hthere, rfl⟩ := exists_of_resolve_child hname hleads
  have hsame : (tree.erase (there ++ [name])).resolve (folder.child other) =
      tree.resolve (folder.child other) := by
    rw [(hthere.erase hfolder List.getLast?_concat).resolve_child, hthere.resolve_child]
  unfold fileAt visit
  rw [hsame]
  split
  · rfl
  · rcases tree.resolve (folder.child other) with fault | found
    · rfl
    · have hfind := find?_erase tree found (isFixed_eq_false hfolder)
      by_cases hgone : found = there ++ [name]
      · rw [if_pos hgone] at hfind
        rw [hgone] at hfind ⊢
        simp [Except.bind, atPath, hfind, hfile]
      · rw [if_neg hgone] at hfind
        rcases hfound : tree.find? found with _ | _ | there <;>
          simp [Except.bind, atPath, hfind, hfound, hgone]

/-! ### Trees without some places -/

/-- The tree without what stands at these places. -/
def without (tree : FileTree) (places : List Place) : FileTree :=
  ⟨tree.entries.filter fun e => !places.contains e.1⟩

theorem without_congr {places others : List Place} (h : ∀ place, place ∈ places ↔ place ∈ others) :
    tree.without places = tree.without others := by
  have hcontains (place : Place) : places.contains place = others.contains place := by
    rw [Bool.eq_iff_iff, List.contains_iff_mem, List.contains_iff_mem, h place]
  simp only [without, hcontains]

theorem without_cons (tree : FileTree) (place : Place) (places : List Place) :
    tree.without (place :: places) = (tree.erase place).without places := by
  simp only [without, erase, List.filter_filter, List.contains_cons, Bool.not_or, bne,
    Bool.and_comm]

theorem find?_without {places : List Place} (h : ∀ place ∈ places, isFixed place = false)
    (other : Place) :
    (tree.without places).find? other = if other ∈ places then none else tree.find? other := by
  induction places generalizing tree with
  | nil => simp [without]
  | cons place places ih =>
      obtain ⟨hplace, hplaces⟩ := List.forall_mem_cons.mp h
      rw [without_cons, ih hplaces, find?_erase tree other hplace]
      by_cases hsame : other = place
      · simp [hsame]
      · simp [hsame]

end FileTree

namespace LocalHandler

variable (handler : LocalHandler) {files : FileTree} {location : String} {place : Place}

/-! ### Deleting one file -/

/-- The place of the file that a deletion at the location takes away, or why it takes none. -/
def freed (files : FileTree) (location : String) : Except Fault Place :=
  match handler.pathFor location with
  | .error fault => .error (.value fault)
  | .ok path => files.fileAt path

theorem freed_of_isFileName (h : IsFileName location) (files : FileTree) :
    handler.freed files location = files.fileAt (handler.root.child location) := by
  rw [freed, handler.pathFor_eq_ok_iff.mpr ⟨h, rfl⟩]

theorem pathFor_of_not_isFileName (h : ¬ IsFileName location) :
    handler.pathFor location = .error (.badLocation location) := by
  rw [pathFor, if_neg (mt isPlain_iff.mp h)]

theorem freed_of_not_isFileName (h : ¬ IsFileName location) (files : FileTree) :
    handler.freed files location = .error (.value (.badLocation location)) := by
  rw [freed, handler.pathFor_of_not_isFileName h]

theorem freed_eq_ok_iff :
    handler.freed files location = .ok place ↔
      IsFileName location ∧ files.fileAt (handler.root.child location) = .ok place := by
  by_cases hname : IsFileName location
  · simp [hname, handler.freed_of_isFileName hname]
  · simp [hname, handler.freed_of_not_isFileName hname]

theorem deleteOne_eq (location : String) (files : FileTree) :
    handler.deleteOne location files = (handler.freed files location).map files.erase := by
  rw [deleteOne, freed]
  cases handler.pathFor location with
  | error fault => rfl
  | ok path => exact files.remove_eq path

/-- **When a file was deleted**, deleting the others comes to the same as before. -/
theorem freed_erase (h : handler.freed files location = .ok place) (other : String) :
    handler.freed (files.erase place) other =
      (handler.freed files other).bind fun found =>
        if found = place then .error (.path .missing (handler.root.child other).text)
          else .ok found := by
  obtain ⟨hname, hplace⟩ := handler.freed_eq_ok_iff.mp h
  by_cases hother : IsFileName other
  · rw [handler.freed_of_isFileName hother, handler.freed_of_isFileName hother]
    exact FileTree.fileAt_erase hname.ne_points hplace other
  · rw [handler.freed_of_not_isFileName hother, handler.freed_of_not_isFileName hother]
    rfl

/-! ### Deleting many -/

/-- The places of the files that a deletion takes away. -/
def freedPlaces (files : FileTree) (locations : List String) : List Place :=
  locations.filterMap fun location => (handler.freed files location).toOption

/-- What is reported of a location. -/
def complaint? (files : FileTree) (location : String) : Option Undeleted :=
  match handler.freed files location with
  | .ok _ => none
  | .error fault => undeleted? location fault

theorem mem_freedPlaces {locations : List String} :
    place ∈ handler.freedPlaces files locations ↔
      ∃ location ∈ locations, handler.freed files location = .ok place := by
  rw [freedPlaces, List.mem_filterMap]
  refine exists_congr fun location => and_congr_right fun _ => ?_
  cases handler.freed files location <;> simp [Except.toOption]

theorem mem_freedPlaces_erase (h : handler.freed files location = .ok place)
    {locations : List String} {other : Place} :
    other ∈ handler.freedPlaces (files.erase place) locations ↔
      other ∈ handler.freedPlaces files locations ∧ other ≠ place := by
  have hfreed (later : String) : handler.freed (files.erase place) later = .ok other ↔
      handler.freed files later = .ok other ∧ other ≠ place := by
    rw [handler.freed_erase h]
    rcases handler.freed files later with fault | found
    · simp [Except.bind]
    · by_cases hsame : found = place
      · simp +contextual [Except.bind, hsame]
      · simp only [Except.bind, if_neg hsame, Except.ok.injEq, iff_self_and]
        rintro rfl
        exact hsame
  simp only [mem_freedPlaces, hfreed, ← and_assoc, exists_and_right]

theorem complaint?_erase (h : handler.freed files location = .ok place) (other : String) :
    handler.complaint? (files.erase place) other = handler.complaint? files other := by
  rw [complaint?, complaint?, handler.freed_erase h]
  rcases handler.freed files other with fault | found
  · rfl
  · by_cases hsame : found = place
    · simp [Except.bind, hsame, undeleted?]
    · simp [Except.bind, hsame]

/-- **Whatever becomes of single files**, a deletion takes away all that can be deleted, -/
theorem fst_deleteAll (locations : List String) (files : FileTree) :
    (handler.deleteAll locations files).1 =
      files.without (handler.freedPlaces files locations) := by
  induction locations generalizing files with
  | nil => simp [deleteAll, freedPlaces, FileTree.without]
  | cons location rest ih =>
      rw [deleteAll, deleteOne_eq]
      rcases h : handler.freed files location with fault | place
      · simpa [freedPlaces, h, Except.toOption, Except.map] using ih files
      · have hcons : handler.freedPlaces files (location :: rest) =
            place :: handler.freedPlaces files rest := by
          simp [freedPlaces, h, Except.toOption]
        simp only [Except.map, ih, hcons, ← FileTree.without_cons]
        refine FileTree.without_congr fun other => ?_
        simp only [List.mem_cons, handler.mem_freedPlaces_erase h]
        tauto

/-- and it reports the others, in their order. -/
theorem snd_deleteAll (locations : List String) (files : FileTree) :
    (handler.deleteAll locations files).2 = locations.filterMap (handler.complaint? files) := by
  induction locations generalizing files with
  | nil => rfl
  | cons location rest ih =>
      rw [deleteAll, deleteOne_eq, List.filterMap_cons]
      rcases h : handler.freed files location with fault | place
      · simp only [Except.map, ih, complaint?, h]
        cases undeleted? location fault <;> rfl
      · have hnone : handler.complaint? files location = none := by rw [complaint?, h]
        have hsame : handler.complaint? (files.erase place) = handler.complaint? files :=
          funext (handler.complaint?_erase h)
        simp only [Except.map, ih, hsame, hnone]

/-! ### What a deletion does -/

/-- Deleting the file that a path leads to fails for another reason than that there is none. -/
def Fails (files : FileTree) (path : FilePath) : Prop :=
  ∃ fault, files.remove path = .error fault ∧ fault.isAbsence = false

/-- A deletion fails at the location. -/
def FailsAt (files : FileTree) (location : String) : Prop :=
  ¬ IsFileName location ∨ Fails files (handler.root.child location)

instance (files : FileTree) (path : FilePath) : Decidable (Fails files path) :=
  match h : files.remove path with
  | .ok _ => isFalse fun ⟨_, hfault, _⟩ => nomatch h.symm.trans hfault
  | .error fault =>
    decidable_of_iff (fault.isAbsence = false)
      ⟨fun habsence => ⟨fault, h, habsence⟩, fun ⟨_, hfault, habsence⟩ =>
        Except.error.inj (h.symm.trans hfault) ▸ habsence⟩

instance (files : FileTree) (location : String) : Decidable (handler.FailsAt files location) :=
  inferInstanceAs (Decidable (_ ∨ _))

/-- The entry says why the file at the location cannot be deleted. -/
def Explains (files : FileTree) (location : String) (entry : Undeleted) : Prop :=
  ∃ fault, handler.deleteOne location files = .error fault ∧
    entry = .of location fault.deletionCode fault.message

theorem failsAt_iff :
    handler.FailsAt files location ↔
      ∃ fault, handler.freed files location = .error fault ∧ fault.isAbsence = false := by
  by_cases hname : IsFileName location
  · rw [handler.freed_of_isFileName hname, FailsAt, Fails, FileTree.remove_eq]
    rcases files.fileAt (handler.root.child location) with fault | place
    · simp [hname, Except.map]
    · simp [hname, Except.map]
  · simp [FailsAt, hname, handler.freed_of_not_isFileName hname, Fault.isAbsence]

theorem complaint?_of_failsAt (h : handler.FailsAt files location) :
    ∃ entry, handler.complaint? files location = some entry ∧
      handler.Explains files location entry := by
  obtain ⟨fault, hfault, habsence⟩ := handler.failsAt_iff.mp h
  -- a location that is no name is a bad value, and all other faults are those of paths
  have hkind : (∃ value, fault = .value value) ∨ ∃ trouble text, fault = .path trouble text := by
    by_cases hname : IsFileName location
    · rw [handler.freed_of_isFileName hname] at hfault
      rcases FileTree.of_fileAt_eq_error hfault with rfl | ⟨trouble, rfl⟩
      · exact .inl ⟨_, rfl⟩
      · exact .inr ⟨_, _, rfl⟩
    · rw [handler.freed_of_not_isFileName hname] at hfault
      exact .inl ⟨_, (Except.error.inj hfault).symm⟩
  have hone : handler.deleteOne location files = .error fault := by
    rw [deleteOne_eq, hfault]
    rfl
  refine ⟨.of location fault.deletionCode fault.message, ?_, fault, hone, rfl⟩
  rw [complaint?, hfault]
  rcases hkind with ⟨value, rfl⟩ | ⟨trouble, text, rfl⟩
  · rfl
  · cases trouble with
    | missing => cases habsence
    | _ => rfl

theorem complaint?_of_not_failsAt (h : ¬ handler.FailsAt files location) :
    handler.complaint? files location = none := by
  rw [complaint?]
  rcases hfreed : handler.freed files location with fault | place
  · have habsence : fault.isAbsence = true := by
      by_contra hother
      exact h (handler.failsAt_iff.mpr ⟨fault, hfreed, Bool.eq_false_iff.mpr hother⟩)
    unfold Fault.isAbsence at habsence
    split at habsence
    · rfl
    · cases habsence
  · rfl

/-- What is reported are the locations at which the deletion fails, each with the reason. -/
theorem explains_complaints (files : FileTree) (locations : List String) :
    List.Forall₂ (handler.Explains files) (locations.filter (handler.FailsAt files))
      (locations.filterMap (handler.complaint? files)) := by
  induction locations with
  | nil => exact .nil
  | cons location rest ih =>
      by_cases h : handler.FailsAt files location
      · obtain ⟨entry, hentry, hexplains⟩ := handler.complaint?_of_failsAt h
        rw [List.filter_cons_of_pos (by simpa using h), List.filterMap_cons_some hentry]
        exact .cons hexplains ih
      · rw [List.filter_cons_of_neg (by simpa using h),
          List.filterMap_cons_none (handler.complaint?_of_not_failsAt h)]
        exact ih

/-- **What a deletion at these locations makes of the files**: those that the locations name are
gone, unless they cannot be deleted, and everything else is as it was. -/
structure Clears (locations : List String) (before after : FileTree) : Prop where
  gone : ∀ location ∈ locations, IsFileName location →
    (∃ fault, before.remove (handler.root.child location) = .error fault) ∨
      ∃ place, before.resolve (handler.root.child location) = .ok place ∧ after.find? place = none
  kept : ∀ place, after.find? place = before.find? place ∨
    ∃ location ∈ locations, IsFileName location ∧
      before.resolve (handler.root.child location) = .ok place ∧
        ∃ content, before.find? place = some (.file content)

theorem isFixed_of_mem_freedPlaces {locations : List String}
    (h : place ∈ handler.freedPlaces files locations) : FileTree.isFixed place = false := by
  obtain ⟨location, -, hfreed⟩ := handler.mem_freedPlaces.mp h
  obtain ⟨-, -, content, hfile⟩ :=
    FileTree.fileAt_eq_ok_iff.mp (handler.freed_eq_ok_iff.mp hfreed).2
  have hfolder : files.find? place ≠ some .folder := by simp [hfile]
  exact FileTree.isFixed_eq_false hfolder

theorem clears_deleteAll (locations : List String) (files : FileTree) :
    handler.Clears locations files (handler.deleteAll locations files).1 := by
  have hfind : ∀ place, (files.without (handler.freedPlaces files locations)).find? place = _ :=
    FileTree.find?_without fun place => handler.isFixed_of_mem_freedPlaces
  rw [fst_deleteAll]
  constructor
  · intro location hmem hname
    rw [FileTree.remove_eq]
    rcases hplace : files.fileAt (handler.root.child location) with fault | place
    · exact .inl ⟨fault, rfl⟩
    · have hfreed := handler.freed_eq_ok_iff.mpr ⟨hname, hplace⟩
      refine .inr ⟨place, (FileTree.fileAt_eq_ok_iff.mp hplace).2.1, ?_⟩
      rw [hfind, if_pos (handler.mem_freedPlaces.mpr ⟨location, hmem, hfreed⟩)]
  · intro place
    rw [hfind]
    split
    · next hmem =>
        obtain ⟨location, hlocation, hfreed⟩ := handler.mem_freedPlaces.mp hmem
        obtain ⟨hname, hplace⟩ := handler.freed_eq_ok_iff.mp hfreed
        obtain ⟨-, hleads, hfile⟩ := FileTree.fileAt_eq_ok_iff.mp hplace
        exact .inr ⟨location, hlocation, hname, hleads, hfile⟩
    · exact .inl rfl

/-- In whatever order files are deleted, the same are left. -/
theorem fst_deleteAll_of_perm {locations others : List String} (h : locations.Perm others)
    (files : FileTree) :
    (handler.deleteAll locations files).1 = (handler.deleteAll others files).1 := by
  rw [fst_deleteAll, fst_deleteAll]
  exact FileTree.without_congr fun place => (h.filterMap _).mem_iff

/-- One location after the other comes to the same as all at once. -/
theorem run_delete_each (locations : List String) (depot : Depot) :
    ((handler.delete locations).run depot).2 =
      locations.foldl (fun depot location => ((handler.delete [location]).run depot).2) depot := by
  induction locations generalizing depot with
  | nil => rw [delete_after]; rfl
  | cons location rest ih =>
      rw [List.foldl_cons, ← ih, delete_after, delete_after, delete_after, deleteAll, deleteAll]
      cases handler.deleteOne location depot.site.files <;> rfl

theorem run_delete_outcome (locations : List String) (depot : Depot) :
    ((handler.delete locations).run depot).1 =
      let failures := (handler.deleteAll locations depot.site.files).2
      if failures = [] then .ok ⟨⟩ else .error (.media (.batch failures)) := by
  simp only [delete, Action.run_bind, Action.run_get]
  rcases handler.deleteAll locations depot.site.files with ⟨files, failures⟩
  cases failures <;> rfl

/-- **A deletion stays in its folder and leaves nothing undone.** Just the names of files are taken
as locations, storage keys among them, and each has a path of its own, which leads to a child of the
folder. A deletion at any locations is a deletion at one after the other, whatever becomes of each.
It takes away what can be deleted and nothing else, in whatever order the locations come, and
reports just those at which it fails, in their order, with the reasons. -/
theorem delete_clears (handler : LocalHandler) :
    (∀ location, (IsFileName location →
      handler.pathFor location = .ok (handler.root.child location)) ∧
        (¬ IsFileName location → handler.pathFor location = .error (.badLocation location))) ∧
      (∀ location tree place, IsFileName location →
        FileTree.resolve tree (handler.root.child location) = .ok place →
          ∃ folder, tree.FolderAt handler.root folder ∧ place = folder ++ [location]) ∧
      (∀ first second path, handler.pathFor first = .ok path → handler.pathFor second = .ok path →
        first = second) ∧
      (∀ uid : Uid, IsFileName uid.key) ∧
      ∀ (locations : List String) (depot : Depot),
        let files := depot.site.files
        let done := (handler.delete locations).run depot
        done.2 = locations.foldl
            (fun depot location => ((handler.delete [location]).run depot).2) depot ∧
          (∃ after, done.2 = { depot with site := { depot.site with files := after } } ∧
            handler.Clears locations files after) ∧
          (∃ failures,
            List.Forall₂ (handler.Explains files)
              (locations.filter (handler.FailsAt files)) failures ∧
              done.1 = if failures = [] then .ok ⟨⟩ else .error (.media (.batch failures))) ∧
          ∀ others, locations.Perm others → ((handler.delete others).run depot).2 = done.2 := by
  refine ⟨fun location => ⟨fun h => ?_, handler.pathFor_of_not_isFileName⟩,
    fun location tree place h => FileTree.exists_of_resolve_child h.ne_points,
    fun first second path hfirst hsecond => ?_, fun uid => isPlain_iff.mp (isPlain_key uid),
    fun locations depot => ⟨handler.run_delete_each locations depot, ?_, ?_, ?_⟩⟩
  · exact handler.pathFor_eq_ok_iff.mpr ⟨h, rfl⟩
  · obtain ⟨-, rfl⟩ := handler.pathFor_eq_ok_iff.mp hfirst
    obtain ⟨-, hsame⟩ := handler.pathFor_eq_ok_iff.mp hsecond
    simpa [FilePath.child] using hsame
  · exact ⟨_, handler.delete_after locations depot,
      handler.clears_deleteAll locations depot.site.files⟩
  · refine ⟨_, handler.explains_complaints depot.site.files locations, ?_⟩
    rw [run_delete_outcome, snd_deleteAll]
  · intro others hperm
    rw [delete_after, delete_after, handler.fst_deleteAll_of_perm hperm]

/-- A location outside of the folder, a file that is named twice, a folder and a file that is
missing. The file is deleted and its neighbour is not; the way out of the folder and the folder are
reported. -/
theorem delete_clears_of_mixed :
    let handler : LocalHandler := {}
    let folder : Place := ["tmp", "site", "uploads"]
    let files : FileTree := ⟨[(folder, .folder), (folder ++ ["picture"], .file [1, 2]),
      (folder ++ ["other"], .file [3]), (folder ++ ["album"], .folder)]⟩
    let locations := ["../escape", "picture", "album", "missing", "picture"]
    let delete (locations : List String) := (handler.delete locations).run ⟨.memory {}, { files }⟩
    handler.pathFor "picture" = .ok (handler.root.child "picture") ∧
      handler.pathFor "../escape" = .error (.badLocation "../escape") ∧
      (delete locations).2.site.files.find? (folder ++ ["picture"]) = none ∧
      (delete locations).2.site.files.find? (folder ++ ["other"]) = some (.file [3]) ∧
      (∃ escape album, handler.Explains files "../escape" escape ∧
        handler.Explains files "album" album ∧
        (delete locations).1 = .error (.media (.batch [escape, album]))) ∧
      (delete locations.reverse).2 = (delete locations).2 := by
  intro handler folder files locations delete
  obtain ⟨hpaths, hchild, -, -, hdelete⟩ := delete_clears handler
  obtain ⟨-, ⟨after, hafter, hclears⟩, ⟨failures, hexplains, houtcome⟩, hperm⟩ :=
    hdelete locations ⟨.memory {}, { files }⟩
  have hafter : (delete locations).2.site.files = after := congrArg (·.site.files) hafter
  rw [hafter]
  refine ⟨(hpaths _).1 (by decide +kernel), (hpaths _).2 (by decide +kernel), ?_, ?_, ?_,
    hperm _ locations.reverse_perm.symm⟩
  · -- the file can be deleted, and this is where it was
    have hok : (files.remove (handler.root.child "picture")).toOption.isSome = true := by
      decide +kernel
    have hplace : (files.resolve (handler.root.child "picture")).toOption =
        some (folder ++ ["picture"]) := by
      decide +kernel
    rcases hclears.gone "picture" (by decide) (by decide +kernel) with
      ⟨fault, hfault⟩ | ⟨place, hleads, hgone⟩
    · rw [hfault] at hok
      cases hok
    · rw [hleads] at hplace
      exact Option.some.inj hplace ▸ hgone
  · -- nothing of its name is to be deleted
    rcases hclears.kept (folder ++ ["other"]) with hkept | ⟨location, hmem, hname, hleads, -⟩
    · rw [hkept]
      decide +kernel
    · obtain ⟨there, -, hsame⟩ := hchild location files _ hname hleads
      obtain ⟨-, hlast⟩ := List.append_inj' hsame rfl
      obtain rfl := List.singleton_injective hlast
      exact absurd hmem (by decide)
  · have hfailed : locations.filter (handler.FailsAt files) = ["../escape", "album"] := by
      decide +kernel
    have hexplains : List.Forall₂ (handler.Explains files)
        (locations.filter (handler.FailsAt files)) failures := hexplains
    rw [hfailed] at hexplains
    obtain _ | ⟨hescape, _ | ⟨halbum, hnone⟩⟩ := hexplains
    obtain _ | _ := hnone
    exact ⟨_, _, hescape, halbum, houtcome⟩

end LocalHandler

end MediaDepot
