/-!
# Cutting texts

Cutting characters or bytes at separators.

* `cut` — before and after the first separator; `cut_eq` says that nothing is lost and that the part
  before holds no separator.
* `cutLast` — before and after the last separator.
* `pieces` — the parts between all separators; always one more than there are separators. They hold
  no separator (`not_mem_of_mem_pieces`), in a row they are the text without separators
  (`flatten_pieces`), and what is joined falls into its parts again (`pieces_intercalate`).
-/

namespace MediaDepot.Text

variable {α : Type} [DecidableEq α]

/-- What stands before the first separator, and what stands after it if there is one. -/
def cut (sep : α) : List α → List α × Option (List α)
  | [] => ([], none)
  | c :: rest => if c = sep then ([], some rest) else (c :: (cut sep rest).1, (cut sep rest).2)

/-- The parts between the separators. -/
def pieces (sep : α) : List α → List (List α)
  | [] => [[]]
  | c :: rest =>
    if c = sep then [] :: pieces sep rest
    else match pieces sep rest with
      | [] => [[c]]
      | first :: more => (c :: first) :: more

/-- What stands before the last separator, if there is one, and what stands after it. -/
def cutLast (sep : α) (cs : List α) : Option (List α) × List α :=
  match cut sep cs.reverse with
  | (after, some before) => (some before.reverse, after.reverse)
  | (after, none) => (none, after.reverse)

/-- What follows a beginning that must be there. -/
def dropPrefix? : List α → List α → Option (List α)
  | [], cs => some cs
  | _ :: _, [] => none
  | p :: ps, c :: cs => if p = c then dropPrefix? ps cs else none

/-- Does the list hold these in a row? -/
def occurs (row : List α) : List α → Bool
  | [] => row.isEmpty
  | c :: rest => (dropPrefix? row (c :: rest)).isSome || occurs row rest

theorem not_mem_cut_fst (sep : α) (cs : List α) : sep ∉ (cut sep cs).1 := by
  induction cs with
  | nil => simp [cut]
  | cons c rest ih =>
    by_cases h : c = sep
    · simp [cut, h]
    · simp [cut, h, ih, Ne.symm h]

/-- Cutting loses nothing: the two parts with the separator between them are the whole. -/
theorem cut_eq (sep : α) (cs : List α) :
    cs = match cut sep cs with
      | (before, some after) => before ++ sep :: after
      | (before, none) => before := by
  induction cs with
  | nil => rfl
  | cons c rest ih =>
    by_cases h : c = sep
    · simp [cut, h]
    · rcases hr : cut sep rest with ⟨before, _ | after⟩ <;> simp_all [cut]

theorem cut_of_not_mem {sep : α} {cs : List α} (h : sep ∉ cs) : cut sep cs = (cs, none) := by
  induction cs with
  | nil => rfl
  | cons c rest ih =>
    simp only [List.mem_cons, not_or] at h
    simp [cut, Ne.symm h.1, ih h.2]

theorem cut_append {sep : α} {before : List α} (h : sep ∉ before) (after : List α) :
    cut sep (before ++ sep :: after) = (before, some after) := by
  induction before with
  | nil => simp [cut]
  | cons c rest ih =>
    simp only [List.mem_cons, not_or] at h
    simp [cut, Ne.symm h.1, ih h.2]

theorem cut_fst (sep : α) (cs : List α) : (cut sep cs).1 = cs.takeWhile (· ≠ sep) := by
  induction cs with
  | nil => rfl
  | cons c rest ih => by_cases h : c = sep <;> simp [cut, h, ih]

theorem pieces_ne_nil (sep : α) (cs : List α) : pieces sep cs ≠ [] := by
  cases cs with
  | nil => simp [pieces]
  | cons c rest =>
    rw [pieces]
    split
    · simp
    · split <;> simp

theorem pieces_of_not_mem {sep : α} {cs : List α} (h : sep ∉ cs) : pieces sep cs = [cs] := by
  induction cs with
  | nil => rfl
  | cons c rest ih =>
    simp only [List.mem_cons, not_or] at h
    rw [pieces, if_neg (Ne.symm h.1), ih h.2]

theorem pieces_append {sep : α} {before : List α} (h : sep ∉ before) (after : List α) :
    pieces sep (before ++ sep :: after) = before :: pieces sep after := by
  induction before with
  | nil => rw [List.nil_append, pieces, if_pos rfl]
  | cons c rest ih =>
    simp only [List.mem_cons, not_or] at h
    rw [List.cons_append, pieces, if_neg (Ne.symm h.1), ih h.2]

/-- What is joined by separators falls into its parts again. -/
theorem pieces_intercalate {sep : α} {parts : List (List α)} (hne : parts ≠ [])
    (h : ∀ part ∈ parts, sep ∉ part) : pieces sep ([sep].intercalate parts) = parts := by
  induction parts with
  | nil => contradiction
  | cons first rest ih =>
    obtain ⟨hfirst, hrest⟩ := List.forall_mem_cons.mp h
    cases rest with
    | nil => rw [List.intercalate_singleton, pieces_of_not_mem hfirst]
    | cons second more =>
      rw [List.intercalate_cons_cons, List.append_assoc, List.singleton_append,
        pieces_append hfirst, ih (by simp) hrest]

theorem not_mem_of_mem_pieces {sep : α} {cs piece : List α} (h : piece ∈ pieces sep cs) :
    sep ∉ piece := by
  induction cs generalizing piece with
  | nil =>
    obtain rfl := List.mem_singleton.mp h
    exact List.not_mem_nil
  | cons c rest ih =>
    rw [pieces] at h
    split at h
    · rcases List.mem_cons.mp h with rfl | h
      · exact List.not_mem_nil
      · exact ih h
    · next hc =>
      -- the first piece of the rest is longer by one character, which is no separator
      rcases hrest : pieces sep rest with _ | ⟨first, more⟩
      · exact absurd hrest (pieces_ne_nil sep rest)
      · rw [hrest] at h ih
        rcases List.mem_cons.mp h with rfl | h
        · exact List.not_mem_cons_of_ne_of_not_mem (Ne.symm hc) (ih List.mem_cons_self)
        · exact ih (List.mem_cons_of_mem _ h)

theorem flatten_pieces (sep : α) (cs : List α) :
    (pieces sep cs).flatten = cs.filter (· ≠ sep) := by
  induction cs with
  | nil => rfl
  | cons c rest ih =>
    rw [pieces]
    split
    · next hc => simpa [hc] using ih
    · next hc =>
      rw [List.filter_cons_of_pos (by simpa using hc), ← ih]
      rcases hrest : pieces sep rest with _ | ⟨first, more⟩
      · exact absurd hrest (pieces_ne_nil sep rest)
      · rfl

theorem dropPrefix?_eq_some_iff {p cs rest : List α} :
    dropPrefix? p cs = some rest ↔ cs = p ++ rest := by
  induction p generalizing cs with
  | nil => simp [dropPrefix?, eq_comm]
  | cons x xs ih =>
    cases cs with
    | nil => simp [dropPrefix?]
    | cons c cs =>
      by_cases h : x = c
      · simp [dropPrefix?, h, ih]
      · simp [dropPrefix?, h, Ne.symm h]

end MediaDepot.Text
