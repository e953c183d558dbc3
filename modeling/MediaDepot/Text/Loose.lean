/-!
# Loose texts

Some charsets can write a half of a surrogate pair that stands alone. Such a half is no character,
so what is read in these charsets is a loose text: characters, and halves among them.

* `LooseText.text?` — the text that a loose text is, if no half stands in it; `text?_ofString` says
  that every text is one.
* `LooseText.shownWith` — the text with a sign in place of every half.
* `LooseText.halves` — the halves where the first one stands.
-/

namespace MediaDepot

/-- A character, or a half of a surrogate pair that stands alone. -/
inductive LooseChar where
  | char (c : Char)
  | half (code : Nat)
  deriving DecidableEq, Repr, Inhabited

/-- Characters with halves of surrogate pairs among them. -/
abbrev LooseText := List LooseChar

namespace LooseChar

/-- Is it a half? -/
def isHalf : LooseChar → Bool
  | .char _ => false
  | .half _ => true

/-- The character, if it is one. -/
def char? : LooseChar → Option Char
  | .char c => some c
  | .half _ => none

/-- What a number below 0x110000 stands for. -/
def ofCode (code : Nat) : LooseChar :=
  if 0xD800 ≤ code ∧ code < 0xE000 then .half code else .char (Char.ofNat code)

end LooseChar

namespace LooseText

/-- The characters of a text. -/
def ofString (s : String) : LooseText := s.toList.map .char

/-- The text, if no half stands in it. -/
def text? (text : LooseText) : Option String := (text.mapM LooseChar.char?).map String.ofList

/-- The text with a sign for every half. -/
def shownWith (sign : Char) (text : LooseText) : String :=
  String.ofList (text.map fun c => c.char?.getD sign)

/-- The text with U+FFFD for every half. -/
def shown (text : LooseText) : String := text.shownWith '\uFFFD'

/-- The halves that stand together where the first one stands. -/
def halves (text : LooseText) : List Nat :=
  ((text.dropWhile fun c => !c.isHalf).takeWhile LooseChar.isHalf).filterMap fun c =>
    match c with
    | .half code => some code
    | .char _ => none

theorem mapM_char?_map_char (cs : List Char) :
    (cs.map LooseChar.char).mapM LooseChar.char? = some cs := by
  induction cs with
  | nil => rfl
  | cons c rest ih => simp [LooseChar.char?, ih]

/-- Every text is a loose text. -/
theorem text?_ofString (s : String) : text? (ofString s) = some s := by
  rw [text?, ofString, mapM_char?_map_char]
  simp

end LooseText

end MediaDepot
