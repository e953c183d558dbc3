import MediaDepot.Text.Charset.Chinese
import MediaDepot.Text.Charset.Japanese
import MediaDepot.Text.Charset.Korean

/-!
# Charsets with designations

In these charsets all bytes are ASCII. Escape sequences choose up to three sets of characters, and
what a byte stands for is looked up in one of them: in the first, in the second between two control
characters, and in the third for a single byte after a sequence of its own.

* `CharacterSet` — the sets that can be chosen, with the sequences that choose them.
* `Designations` — what a charset admits; `iso2022Jp` and the others are the charsets.
* `readDesignated` — reads one step.
-/

namespace MediaDepot.Text

/-- A set of characters that an escape sequence can choose. -/
inductive CharacterSet where
  | ascii
  /-- ASCII but for two characters. -/
  | roman
  /-- The narrow letters. -/
  | narrow
  /-- The upper half of Latin-1. -/
  | latin
  /-- The upper half of Greek. -/
  | greek
  /-- JIS X 0208, and its first edition. -/
  | jis
  | firstJis
  | supplement
  | firstPlane (edition : Edition)
  | secondPlane (edition : Edition)
  | gb
  | ks
  deriving DecidableEq

namespace CharacterSet

/-- The byte that ends the sequences choosing a set. -/
def final : CharacterSet → Char
  | .ascii | .jis => 'B'
  | .roman => 'J'
  | .narrow => 'I'
  | .latin | .gb => 'A'
  | .greek => 'F'
  | .firstJis => '@'
  | .ks => 'C'
  | .supplement => 'D'
  | .firstPlane .first => 'O'
  | .firstPlane .second => 'Q'
  | .secondPlane _ => 'P'

/-- Does a set consist of pairs of bytes? -/
def isDouble : CharacterSet → Bool
  | .ascii | .roman | .narrow | .latin | .greek => false
  | _ => true

/-- The characters of a row and a column of a set of pairs, both counted from zero. -/
def pair? (set : CharacterSet) (row column : Nat) : Option (List Char) :=
  match set with
  | .jis | .firstJis => (jisGrid.get? row column).map ([·])
  | .supplement => (supplementGrid.get? row column).map ([·])
  | .firstPlane edition => Text.firstPlane? edition row column
  | .secondPlane edition => (Text.secondPlane? edition row column).map ([·])
  | .gb => (gbGrid.get? row column).map ([·])
  | .ks => (ksGrid.get? row column).map ([·])
  | _ => none

/-- The character of a byte in a set of single bytes. The upper halves are for the third place
only. -/
def single? (set : CharacterSet) (b : Nat) : Option Char :=
  match set with
  | .ascii => some (Char.ofNat b)
  | .roman => some (romanLetter b)
  | .narrow => narrow? (b + 128)
  | _ => none

/-- Reads a character of the set, and says how many bytes it takes. -/
def read? (set : CharacterSet) (a : UInt8) (rest : Bytes) : Option (List Char × Nat) :=
  if set.isDouble then
    match rest with
    | b :: _ =>
      if 0x21 ≤ a ∧ 0x21 ≤ b then
        (set.pair? (a.toNat - 0x21) (b.toNat - 0x21)).map fun cs => (cs, 2)
      else none
    | [] => none
  else (set.single? a.toNat).map fun c => ([c], 1)

/-- The Greek characters from 0xA0 on, as they were first assigned. A space stands for none. -/
def greekHalf : String :=
  "\xa0‘’£  ¦§¨© «¬\xad ―°±²³΄΅Ά·ΈΉΊ»Ό½ΎΏΐΑΒΓΔΕΖΗΘΙΚΛΜΝΞΟΠΡ ΣΤΥΦΧΨΩΪΫάέήίΰαβγδεζηθικλμνξοπρςστυφχψωϊϋόύώ"

/-- The Greek character of a byte whose highest bit was turned over. -/
def greek? (b : UInt8) : Option Char :=
  let code := b.toNat ^^^ 128
  if code < 0xA0 then some (Char.ofNat code)
  else (greekHalf.toList[code - 0xA0]?).filter (· != ' ')

/-- Can the set be used in the third place? -/
def isThird (set : CharacterSet) : Bool := [.ascii, .latin, .greek].contains set

/-- The character of a byte after the sequence for the third place. -/
def third? (set : CharacterSet) (b : UInt8) : Option Char :=
  match set with
  | .ascii => if b < 128 then some (Char.ofNat b.toNat) else none
  | .latin => if b < 128 then some (Char.ofNat (b.toNat + 128)) else none
  | .greek => greek? b
  | _ => none

end CharacterSet

/-! ## The charsets -/

/-- What a charset with designations admits. -/
structure Designations where
  /-- The sets that can be chosen besides ASCII. -/
  sets : List CharacterSet
  /-- Is there a second place between control characters? -/
  hasSecond : Bool := false
  /-- Is there a third place? -/
  hasThird : Bool := false
  /-- May a sequence announce a revision of the set that is chosen after it? -/
  hasRevision : Bool := true

/-- The charset with the Korean set, which may stand in the second place. -/
def iso2022Kr : Designations := { sets := [.ks], hasSecond := true, hasRevision := false }

/-- The Japanese charset. -/
def iso2022Jp : Designations := { sets := [.jis, .roman, .firstJis] }

/-- With the supplement. -/
def iso2022Jp1 : Designations := { sets := [.jis, .supplement, .roman, .firstJis] }

/-- With sets of other languages too. -/
def iso2022Jp2 : Designations where
  sets := [.jis, .supplement, .ks, .gb, .roman, .firstJis, .latin, .greek]
  hasThird := true

/-- With the two planes in their first edition. -/
def iso2022Jp3 : Designations := { sets := [.firstPlane .first, .jis, .secondPlane .first] }

/-- With the two planes in their second edition. -/
def iso2022Jp2004 : Designations := { sets := [.firstPlane .second, .jis, .secondPlane .second] }

/-- With the supplement and the narrow letters. -/
def iso2022JpExt : Designations :=
  { sets := [.jis, .supplement, .roman, .narrow, .firstJis] }

/-! ## Reading -/

/-- What bytes stand for. -/
structure Shift where
  first : CharacterSet := .ascii
  second : CharacterSet := .ascii
  third : CharacterSet := .ascii
  /-- Are bytes looked up in the second set? -/
  inSecond : Bool := false
  /-- Do the bytes belong to an unknown escape sequence? They stand for themselves. -/
  inUnknown : Bool := false
  /-- Did a byte stand in the third place whose set has no use there? Then nothing can be made of
  the rest. -/
  isLost : Bool := false

/-- Does the byte end an escape sequence? -/
def endsEscape (b : UInt8) : Bool := (0x41 ≤ b && b ≤ 0x5A) || b == 0x40

/-- The bytes of an escape sequence after the escape character. Where it may announce a revision, it
goes on with the sequence that it is about. -/
def escapeSequence (hasRevision : Bool) (bytes : Bytes) : Bytes :=
  let (head, rest) : Bytes × Bytes :=
    match bytes with
    | 0x26 :: 0x40 :: 27 :: rest => if hasRevision then ([0x26, 0x40, 27], rest) else ([], bytes)
    | _ => ([], bytes)
  let (middle, last) := rest.span fun b => !endsEscape b
  head ++ middle ++ last.take 1

/-- The set that the end of a sequence names, if the charset admits it. -/
def Designations.set? (designations : Designations) (double : Bool) (final : UInt8) :
    Option CharacterSet :=
  (CharacterSet.ascii :: designations.sets).find? fun set =>
    set.isDouble == double && set.final.toNat == final.toNat

/-- The shift that a complete escape sequence calls for, by the bytes after the escape character.
The sequence for JIS X 0208 may come after the two bytes of another, which announces its
revision. -/
def Designations.shift? (designations : Designations) (shift : Shift) : Bytes → Option Shift
  | [0x28, final] => (designations.set? false final).map ({ shift with first := · })
  | [0x29, final] => (designations.set? false final).map ({ shift with second := · })
  | [0x2E, final] =>
    if designations.hasThird then (designations.set? false final).map ({ shift with third := · })
    else none
  | [0x24, final] | [0x24, 0x28, final] =>
    (designations.set? true final).map ({ shift with first := · })
  | [0x24, 0x29, final] => (designations.set? true final).map ({ shift with second := · })
  | [_, _, 27, 0x24, 0x42] =>
    (designations.set? true 0x42).map ({ shift with first := · })
  | _ => none

/-- Reads an escape character and what belongs to it. -/
def Designations.readEscape (designations : Designations) (shift : Shift) (rest : Bytes) :
    Option (List Char × Nat × Shift) :=
  match rest with
  | [] => none
  | b :: rest' =>
    if [0x28, 0x29, 0x24, 0x2E, 0x26].contains b then
      let sequence := escapeSequence designations.hasRevision rest
      (designations.shift? shift sequence).map fun shift => ([], sequence.length + 1, shift)
    else if designations.hasThird && b == 0x4E then
      match rest' with
      | [] => none
      | c :: _ =>
        if shift.third.isThird then (shift.third.third? c).map fun c => ([c], 3, shift)
        else some ([], 3, { shift with isLost := true })
    else some (['\x1b'], 1, { shift with inUnknown := true })

/-- Reads one step. A line end leads back to the first set. -/
def readDesignated (designations : Designations) : Reader Shift
  | shift, a :: rest =>
    let own := [Char.ofNat a.toNat]
    if shift.isLost then some ([], 1, shift)
    else if shift.inUnknown then some (own, 1, { shift with inUnknown := !endsEscape a })
    else if a = 27 then designations.readEscape shift rest
    else if designations.hasSecond ∧ a = 15 then some ([], 1, { shift with inSecond := false })
    else if designations.hasSecond ∧ a = 14 then some ([], 1, { shift with inSecond := true })
    else if a = 10 then some (own, 1, { shift with inSecond := false })
    else if a < 32 then some (own, 1, shift)
    else if a ≥ 128 then none
    else
      let set := if shift.inSecond then shift.second else shift.first
      (set.read? a rest).map fun (characters, taken) => (characters, taken, shift)
  | _, [] => none

end MediaDepot.Text
