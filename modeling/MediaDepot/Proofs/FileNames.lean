import MediaDepot.Handler.Local

/-!
# MediaDepot.Proofs.FileNames

**Which texts name a file of a folder.** Read as a path, a text falls into its names: slashes
separate them, and empty names and single points are left out. A text that is its own last name
therefore has no slash, and one without a slash is its own only name (`IsFileName.ofText_eq`). Such
a text, put behind a folder, is a child of that folder (`IsFileName.join_eq`), and only such texts
are taken as locations (`LocalHandler.isPlain_iff`).
-/

namespace MediaDepot

open Text

/-- **The text names a file of a folder**: it is not empty, has no slash, and does not stand for the
folder itself or the one above it. -/
structure IsFileName (text : String) : Prop where
  ne_empty : text ≠ ""
  no_slash : '/' ∉ text.toList
  ne_point : text ≠ "."
  ne_points : text ≠ ".."

namespace IsFileName

variable {text : String}

/-- Such a text is a path of one name. -/
theorem ofText_eq (h : IsFileName text) : FilePath.ofText text = ⟨0, [text]⟩ := by
  have hslashes : FilePath.leadingSlashes text.toList = 0 := by
    have hnone : text.toList.takeWhile (· == '/') = [] := by
      rcases hlist : text.toList with _ | ⟨first, rest⟩
      · rfl
      · have hfirst : first ≠ '/' := fun hslash => h.no_slash (by simp [hlist, hslash])
        exact List.takeWhile_cons_of_neg (by simpa using hfirst)
    simp [FilePath.leadingSlashes, hnone]
  have hkept : (text.toList != [] && text.toList != ['.']) = true := by
    have hpoint : text.toList ≠ ['.'] := fun hlist => h.ne_point (String.toList_injective hlist)
    simpa [h.ne_empty] using hpoint
  simp only [FilePath.ofText, hslashes, pieces_of_not_mem h.no_slash, List.filter_cons, hkept]
  simp

theorem join_eq (h : IsFileName text) (folder : FilePath) :
    folder.join text = folder.child text := by
  simp [FilePath.join, h.ofText_eq, FilePath.child]

end IsFileName

/-- The last name of a path that was read from a text has no slash. -/
theorem FilePath.no_slash_of_name_ofText {text : String} (h : (ofText text).name ≠ "") :
    '/' ∉ (ofText text).name.toList := by
  rcases hlast : (ofText text).parts.getLast? with _ | last
  · simp [name, hlast] at h
  · obtain ⟨piece, hpiece, rfl⟩ := List.mem_map.mp (List.mem_of_getLast? hlast)
    simpa [name, hlast] using not_mem_of_mem_pieces (List.mem_filter.mp hpiece).1

namespace LocalHandler

/-- **Only names of files are taken as locations.** -/
theorem isPlain_iff {location : String} : isPlain location = true ↔ IsFileName location := by
  simp only [isPlain, Bool.and_eq_true, Bool.not_eq_true', String.isEmpty_eq_false_iff, beq_iff_eq,
    bne_iff_ne]
  constructor
  · rintro ⟨⟨⟨hempty, hname⟩, hpoint⟩, hpoints⟩
    have hslash := FilePath.no_slash_of_name_ofText (hname.symm ▸ hempty)
    exact ⟨hempty, hname ▸ hslash, hpoint, hpoints⟩
  · intro h
    have hname : (FilePath.ofText location).name = location := by
      rw [h.ofText_eq]
      rfl
    exact ⟨⟨⟨h.ne_empty, hname⟩, h.ne_point⟩, h.ne_points⟩

/-- **The path of a location** is that of a file of the folder. -/
theorem pathFor_eq_ok_iff (handler : LocalHandler) {location : String} {path : FilePath} :
    handler.pathFor location = .ok path ↔
      IsFileName location ∧ path = handler.root.child location := by
  rw [pathFor]
  split
  · next hplain =>
      have hname := isPlain_iff.mp hplain
      simp [hname, hname.join_eq, eq_comm]
  · next hplain => simp [← isPlain_iff, hplain]

end LocalHandler

end MediaDepot
