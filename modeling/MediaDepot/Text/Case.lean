import MediaDepot.Text.CaseTable

/-!
# Letter case

Small-letter form of a text, by which header names, file suffixes, media types and setting values
are compared. Beyond ASCII every capital letter has one small letter, apart from the dotted capital
I, which becomes two characters, and the capital sigma, which takes its final form at the end of a
word.

* `lower` — the small-letter form; `lower_ascii` says that on ASCII it is `Char.toLower`.
* `capitals` — the capital form of a character as far as it is written in ASCII, enough to recognise
  an ASCII word in any spelling; `upper_upper` says that taking it again changes nothing.
-/

namespace MediaDepot.Text

/-- Does the run hold the code point? -/
def CaseRun.holds (run : CaseRun) (code : Nat) : Bool :=
  run.first ≤ code && code ≤ run.last && (code - run.first) % run.stride == 0

/-- The small form of one character, without regard to its surroundings. -/
def lowerChar (c : Char) : List Char :=
  if c.toNat < 128 then [c.toLower]
  else if c = 'İ' then ['i', '\u0307']
  else match caseRuns.find? (·.holds c.toNat) with
    | some run => [Char.ofNat ((c.toNat : Int) + run.shift).toNat]
    | none => [c]

/-- Does the character have case, so that it makes a sigma after it final? -/
def isCased (c : Char) : Bool := casedLetters.contains c

/-- Is the character passed over in the search for a letter with case? -/
def isCaseIgnorable (c : Char) : Bool := caseIgnorables.contains c

/-- Is the next character that counts a letter with case? -/
def casedAhead : List Char → Bool
  | [] => false
  | c :: rest => if isCaseIgnorable c then casedAhead rest else isCased c

/-- Small form of the rest of a text, where `afterCased` tells whether the last character before it
that counts is a letter with case. -/
def lowerFrom (afterCased : Bool) : List Char → List Char
  | [] => []
  | c :: rest =>
    let small := if c = 'Σ' then [if afterCased && !casedAhead rest then 'ς' else 'σ']
      else lowerChar c
    small ++ lowerFrom (if isCaseIgnorable c then afterCased else isCased c) rest

/-- The small-letter form of a text. -/
def lower (s : String) : String := String.ofList (lowerFrom false s.toList)

/-- On ASCII characters the small form is taken letter by letter. -/
theorem lowerFrom_ascii {cs : List Char} (h : ∀ c ∈ cs, c.toNat < 128) (b : Bool) :
    lowerFrom b cs = cs.map Char.toLower := by
  induction cs generalizing b with
  | nil => rfl
  | cons c rest ih =>
    have hc : c.toNat < 128 := h c (by simp)
    have hs : c ≠ 'Σ' := by
      rintro rfl
      exact absurd hc (by decide)
    simp [lowerFrom, lowerChar, hs, hc, ih (fun x hx => h x (by simp [hx]))]

/-- On ASCII texts the small form is taken letter by letter. -/
theorem lower_ascii {s : String} (h : ∀ c ∈ s.toList, c.toNat < 128) :
    lower s = String.ofList (s.toList.map Char.toLower) := by
  rw [lower, lowerFrom_ascii h]

/-- The capital form of a character. Beyond ASCII only the characters are listed whose capital form
is written in ASCII letters; all others stand for themselves. -/
def capitals (c : Char) : List Char :=
  if c.toNat < 128 then [c.toUpper]
  else match c with
    | 'ß' => ['S', 'S']
    | 'ı' => ['I']
    | 'ſ' => ['S']
    | 'ﬀ' => ['F', 'F']
    | 'ﬁ' => ['F', 'I']
    | 'ﬂ' => ['F', 'L']
    | 'ﬃ' => ['F', 'F', 'I']
    | 'ﬄ' => ['F', 'F', 'L']
    | 'ﬅ' => ['S', 'T']
    | 'ﬆ' => ['S', 'T']
    | other => [other]

/-- The text in capitals, exact as far as ASCII words are concerned. -/
def upper (s : String) : String := String.ofList (s.toList.flatMap capitals)

theorem capitals_ascii {c : Char} (h : c.toNat < 128) : capitals c = [c.toUpper] := if_pos h

theorem flatMap_capitals (c : Char) : (capitals c).flatMap capitals = capitals c := by
  by_cases h : c.toNat < 128
  · have hall : ∀ n : Fin 128, capitals (Char.ofNat n).toUpper = [(Char.ofNat n).toUpper] := by
      decide
    have hagain := hall ⟨c.toNat, h⟩
    rw [Char.ofNat_toNat] at hagain
    rw [capitals_ascii h, List.flatMap_singleton, hagain]
  · have hcases : capitals c = [c] ∨ capitals c ∈ ["SS".toList, ['I'], ['S'], "FF".toList,
        "FI".toList, "FL".toList, "FFI".toList, "FFL".toList, "ST".toList] := by
      unfold capitals
      rw [if_neg h]
      split <;> simp
    rcases hcases with hself | hword
    · rw [hself, List.flatMap_singleton, hself]
    · -- the words are ASCII words in capitals already
      revert hword
      generalize capitals c = word
      revert word
      decide

/-- A text in capitals is in capitals. -/
theorem upper_upper (s : String) : upper (upper s) = upper s := by
  simp only [upper, String.toList_ofList, List.flatMap_assoc, flatMap_capitals]

end MediaDepot.Text
