import MediaDepot.Text.Marks.Table

/-!
# Texts with marks

Many characters can be written in two ways: as one, or as a base and the marks on it. In a composed
text everything is written in as few characters as possible, and the marks that stay apart are in
the order of their classes.

* `Marks.apart` — a text with all bases and marks apart; `Marks.ordered` — with its marks in order.
* `Marks.composed` — the composed form of a text; `Marks.isComposed` — whether a text is that
  already.
-/

namespace MediaDepot.Text.Marks

/-! ## Characters and their parts -/

/-- The class in the last entry at or below a code point, where `current` is the one before. -/
def classFrom (current code : Nat) : List (Nat × Nat) → Nat
  | [] => current
  | (start, next) :: rest => if start ≤ code then classFrom next code rest else current

/-- The class of a mark; 0 for a character that is none. -/
def markClass (c : Char) : Nat := classFrom 0 c.toNat markClasses

/-- The base and the mark of a character. -/
def parts? (c : Char) : Option (Char × Char) :=
  compositions.findSome? fun composition =>
    ((composition.whole.toList.zip composition.bases.toList).lookup c).map (·, composition.mark)

/-- The character that a base and a mark make. -/
def whole? (base mark : Char) : Option Char :=
  compositions.findSome? fun composition =>
    if composition.mark = mark then
      (composition.bases.toList.zip composition.whole.toList).lookup base
    else none

/-! ## Korean syllables -/

/-- The first syllable; there is one for each initial, vowel and final or lack of a final. -/
def firstSyllable : Nat := 0xAC00

/-- The first initial. -/
def firstInitial : Nat := 0x1100

/-- The first vowel. -/
def firstVowel : Nat := 0x1161

/-- The place before the first final. -/
def beforeFinals : Nat := 0x11A7

/-- The number of initials. -/
def initials : Nat := 19

/-- The number of vowels. -/
def vowels : Nat := 21

/-- The number of finals, and one for none. -/
def finals : Nat := 28

/-- The letters of a syllable. -/
def letters? (c : Char) : Option (List Char) :=
  let n := c.toNat - firstSyllable
  if c.toNat < firstSyllable ∨ initials * vowels * finals ≤ n then none
  else
    let opening := [Char.ofNat (firstInitial + n / finals / vowels),
      Char.ofNat (firstVowel + n / finals % vowels)]
    some (if n % finals = 0 then opening else opening ++ [Char.ofNat (beforeFinals + n % finals)])

/-- The syllable that an initial and a vowel make, or a syllable without a final and a final. -/
def syllable? (c next : Char) : Option Char :=
  let initial := c.toNat - firstInitial
  let vowel := next.toNat - firstVowel
  let n := c.toNat - firstSyllable
  let final := next.toNat - beforeFinals
  if firstInitial ≤ c.toNat ∧ initial < initials ∧ firstVowel ≤ next.toNat ∧ vowel < vowels then
    some (Char.ofNat (firstSyllable + (initial * vowels + vowel) * finals))
  else if firstSyllable ≤ c.toNat ∧ n < initials * vowels * finals ∧ n % finals = 0
      ∧ beforeFinals < next.toNat ∧ final < finals then
    some (Char.ofNat (c.toNat + final))
  else none

/-! ## Texts -/

/-- A character with its parts put apart, of which the base may have parts again. -/
def apartChar : (depth : Nat) → Char → List Char
  | 0, c => [c]
  | depth + 1, c =>
    match parts? c with
    | some (base, mark) => apartChar depth base ++ [mark]
    | none => (letters? c).getD [c]

/-- The most marks in one character. -/
def mostMarks : Nat := 3

/-- A text with all bases and marks apart. -/
def apart (cs : List Char) : List Char := cs.flatMap (apartChar mostMarks)

/-- A character in front of others, but after the marks of lower classes if it is a mark. -/
def putMark (c : Char) : List Char → List Char
  | [] => [c]
  | d :: rest =>
    if 0 < markClass d ∧ markClass d < markClass c then d :: putMark c rest else c :: d :: rest

/-- A text with its marks in the order of their classes. -/
def ordered (cs : List Char) : List Char := cs.foldr putMark []

/-- A base with what follows it, as composed as can be. The marks between, in reverse order, do not
join the base; `barrier` is the class of the last one, 0 if there is none, and keeps away what is
not of a higher class. -/
def joined (base : Char) (between : List Char) (barrier : Nat) : List Char → List Char
  | [] => base :: between.reverse
  | c :: rest =>
    let rank := markClass c
    if barrier ≠ 0 ∧ rank = 0 then base :: between.reverse ++ joined c [] 0 rest
    else if barrier ≠ 0 ∧ rank ≤ barrier then joined base (c :: between) barrier rest
    else match (syllable? base c).or (whole? base c) with
      | some whole => joined whole between barrier rest
      | none =>
        if rank = 0 then base :: between.reverse ++ joined c [] 0 rest
        else joined base (c :: between) rank rest

/-- The composed form of a text. -/
def composed (cs : List Char) : List Char :=
  match ordered (apart cs) with
  | [] => []
  | base :: rest => joined base [] 0 rest

/-- Is the text composed? -/
def isComposed (cs : List Char) : Bool := composed cs == cs

end MediaDepot.Text.Marks
