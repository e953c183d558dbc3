import MediaDepot.Text.DomainName.Table
import MediaDepot.Text.Marks
import MediaDepot.Text.Punycode

/-!
# Domain names

A domain name is sent in ASCII. A label with other characters begins with a mark and is in Punycode
from there on; it counts only if it is the one label that its text has.

* `DomainName.isPrepared` — whether a text, but for capitals, may be that of such a label.
* `DomainName.decode` — the text of a domain name.
-/

namespace MediaDepot.Text.DomainName

/-- The mark at the beginning of labels in Punycode. -/
def mark : List Char := "xn--".toList

/-- The characters of bytes in ASCII. -/
def characters (bytes : Bytes) : List Char := bytes.map fun b => Char.ofNat b.toNat

/-- May the text be written in its order? What is written from right to left holds nothing that is
written from left to right, and neither begins nor ends with anything that has no direction. -/
def isDirected (cs : List Char) : Bool :=
  !cs.any leftward.contains || (!cs.any rightward.contains
    && (cs.head?.map leftward.contains).getD false &&
      (cs.getLast?.map leftward.contains).getD false)

/-- Is the text as it is when it has been prepared for a label? -/
def isPrepared (cs : List Char) : Bool :=
  cs.all settled.contains && Marks.isComposed cs && isDirected cs && !mark.isPrefixOf cs

/-- A label must be shorter. -/
def labelLimit : Nat := 64

/-- Are bytes in Punycode as they have to be? A text in ASCII needs no Punycode, and a text without
ASCII needs no hyphen. -/
def isNeeded (bytes : Bytes) : Bool :=
  let (base, digits) := Punycode.split bytes
  !digits.isEmpty && base != some []

/-- The text of a label. -/
def decodeLabel (label : Bytes) : Except CharsetFault LooseText :=
  if label.any (128 ≤ ·) then .error .noText
  else if !mark.isPrefixOf (characters label) then .ok ((characters label).map .char)
  else if labelLimit ≤ label.length then .error .broken
  else do
    let coded := label.drop mark.length
    let text ← Punycode.decode coded
    match text.mapM LooseChar.char? with
    | some cs =>
      if isNeeded coded && isPrepared (cs.map Char.toLower) then return text else throw .broken
    | none => throw .broken

/-- The text of a domain name. -/
def decode (bytes : Bytes) : Except CharsetFault LooseText := do
  return [LooseChar.char '.'].intercalate (← (pieces 46 bytes).mapM decodeLabel)

end MediaDepot.Text.DomainName
