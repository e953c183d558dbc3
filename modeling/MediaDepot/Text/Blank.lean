import MediaDepot.Text.CodeSet

/-!
# Blank characters

Which characters count as blank at the ends of a setting, a query value or a message, and removal
of them. The set is wider than ASCII: it holds the four information separators, the next-line
character, the no-break space and the typographic spaces, but not the zero-width space.

* `isBlank` — the set; `isBlank_of_isWhitespace` says that it extends the ASCII notion.
* `trim` — a text without blank characters at either end; `stripEnds_spec` says what is left when
  characters of any class are removed there, and `trim_around` that blanks put there are removed.
* `isWhiteSpace` — the smaller class used inside numbers in configuration documents, without the
  information separators.
-/

namespace MediaDepot.Text

/-- The blank characters. -/
def blanks : CodeSet :=
  ⟨[9, 14, 28, 33, 133, 134, 160, 161, 5760, 5761, 8192, 8203, 8232, 8234, 8239, 8240, 8287, 8288,
    12288, 12289]⟩

/-- Is the character blank? -/
def isBlank (c : Char) : Bool := blanks.contains c

/-- The blank characters without the information separators U+001C to U+001F. -/
def isWhiteSpace (c : Char) : Bool := isBlank c && !(28 ≤ c.toNat && c.toNat ≤ 31)

/-- Whatever is white space to ASCII is blank. -/
theorem isBlank_of_isWhitespace {c : Char} (h : c.isWhitespace = true) : isBlank c = true := by
  simp only [Char.isWhitespace, Bool.or_eq_true, decide_eq_true_eq] at h
  rcases h with ((rfl | rfl) | rfl) | rfl <;> rfl

/-- Characters with the leading ones of class `p` removed on both sides. -/
def stripEnds (p : Char → Bool) (cs : List Char) : List Char :=
  ((cs.dropWhile p).reverse.dropWhile p).reverse

/-- What is left of a text without certain characters at either end. -/
theorem stripEnds_spec (p : Char → Bool) (cs : List Char) :
    (∃ before after, cs = before ++ stripEnds p cs ++ after ∧ ∀ c ∈ before ++ after, p c = true) ∧
      (∀ c, (stripEnds p cs).head? = some c → p c = false) ∧
      ∀ c, (stripEnds p cs).getLast? = some c → p c = false := by
  have hdrop (l : List Char) (c : Char) (h : (l.dropWhile p).head? = some c) : p c = false := by
    have hfirst := List.head?_dropWhile_not p l
    rwa [h] at hfirst
  let rest := cs.dropWhile p
  let after := (rest.reverse.takeWhile p).reverse
  have hrest : rest = stripEnds p cs ++ after := by
    rw [stripEnds, ← List.reverse_append, List.takeWhile_append_dropWhile, List.reverse_reverse]
  refine ⟨⟨cs.takeWhile p, after, ?_, fun c hc => ?_⟩, fun c hc => ?_, fun c hc => ?_⟩
  · rw [List.append_assoc, ← hrest, List.takeWhile_append_dropWhile]
  · rcases List.mem_append.mp hc with hc | hc
    · exact List.all_eq_true.mp List.all_takeWhile c hc
    · exact List.all_eq_true.mp List.all_takeWhile c (List.mem_reverse.mp hc)
  · refine hdrop cs c ?_
    rw [show cs.dropWhile p = stripEnds p cs ++ after from hrest, List.head?_append, hc]
    rfl
  · exact hdrop rest.reverse c (by simpa [stripEnds] using hc)

theorem stripEnds_eq_self {p : Char → Bool} {cs : List Char} (h : ∀ c ∈ cs, p c = false) :
    stripEnds p cs = cs := by
  have hkept (cs : List Char) (h : ∀ c ∈ cs, p c = false) : cs.dropWhile p = cs := by
    cases cs with
    | nil => rfl
    | cons c rest => exact List.dropWhile_cons_of_neg (by simp [h c List.mem_cons_self])
  rw [stripEnds, hkept cs h, hkept _ fun c hc => h c (List.mem_reverse.mp hc), List.reverse_reverse]

theorem stripEnds_append_left {p : Char → Bool} {before : List Char} (h : ∀ c ∈ before, p c = true)
    (cs : List Char) : stripEnds p (before ++ cs) = stripEnds p cs := by
  rw [stripEnds, List.dropWhile_append_of_pos h, stripEnds]

theorem stripEnds_append_right {p : Char → Bool} {after : List Char} (h : ∀ c ∈ after, p c = true)
    (cs : List Char) : stripEnds p (cs ++ after) = stripEnds p cs := by
  have hreverse : ∀ c ∈ after.reverse, p c = true := fun c hc => h c (List.mem_reverse.mp hc)
  rw [stripEnds, List.dropWhile_append]
  split
  · next hnone =>
      have hcs : cs.dropWhile p = [] := by simpa using hnone
      have hafter : after.dropWhile p = [] := by
        rw [← List.append_nil after, List.dropWhile_append_of_pos h]
        rfl
      rw [hafter, stripEnds, hcs]
  · rw [List.reverse_append, List.dropWhile_append_of_pos hreverse, stripEnds]

/-- The text without blank characters at either end. -/
def trim (s : String) : String := String.ofList (stripEnds isBlank s.toList)

/-- Has the text no character but blank ones? -/
def isBlankText (s : String) : Bool := s.toList.all isBlank

/-- Blank characters around a text are no part of what is left of it. -/
theorem trim_around {before after : String} (hbefore : isBlankText before = true)
    (hafter : isBlankText after = true) (s : String) : trim (before ++ s ++ after) = trim s := by
  rw [isBlankText, List.all_eq_true] at hbefore hafter
  rw [trim, String.toList_append, String.toList_append, stripEnds_append_right hafter,
    stripEnds_append_left hbefore, trim]

theorem trim_of_isBlankText {s : String} (h : isBlankText s = true) : trim s = "" := by
  rw [isBlankText, List.all_eq_true] at h
  rw [trim, ← List.append_nil s.toList, stripEnds_append_left h]
  rfl

end MediaDepot.Text
