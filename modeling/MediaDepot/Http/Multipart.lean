import MediaDepot.Http.Parameters
import MediaDepot.Http.Part
import MediaDepot.Text.Charset

/-!
# Parts between boundaries

A form with files is a row of parts. Each follows a boundary line and has a head of lines, an empty
line and its content; two hyphens after a boundary end the form. What is not complete does not
count, and nothing after the end is looked at. A fault counts as soon as the bytes up to it show it.

* `Multipart.head` — the lines of a head.
* `Multipart.content` — the content of a part, up to the boundary line that ends it.
* `Multipart.read` — the parts of a form; one with a file name is a file, also if the name is empty.
-/

namespace MediaDepot.Http.Multipart

open Text

/-! ## Boundaries -/

/-- How bytes begin compared with a row that must come first. -/
inductive Beginning where
  /-- The row is there, and this follows it. -/
  | complete (rest : Bytes)
  /-- The bytes end within the row. -/
  | cut
  /-- There is something else. -/
  | different
  deriving DecidableEq, Repr

/-- Compares the beginning of bytes with a row. -/
def beginning : (row : Bytes) → Bytes → Beginning
  | [], bytes => .complete bytes
  | _ :: _, [] => .cut
  | x :: row, b :: bytes => if x = b then beginning row bytes else .different

/-- A line end. -/
def lineEnd : Bytes := [13, 10]

/-- Two hyphens. -/
def hyphens : Bytes := [45, 45]

/-- What comes after the content of a part. -/
inductive Ending where
  /-- Another part. -/
  | part (rest : Bytes)
  /-- The end of the form. -/
  | form
  /-- Nothing: the bytes end before it is clear. -/
  | cut
  /-- A boundary with something else on its line. -/
  | malformed
  deriving DecidableEq, Repr

/-- Is it a space or a tab? -/
def isPadding (b : UInt8) : Bool := b == 32 || b == 9

/-- What a place in the content of a part is. -/
inductive Place where
  /-- The content ends here. -/
  | ending (ending : Ending)
  /-- This byte belongs to the content, and so do so many more after it. -/
  | content (more : Nat)
  deriving DecidableEq, Repr

/-- What a boundary row of the given length makes of its place, by the bytes after it. Only a line
end may follow spaces and tabs. If it is no boundary after all, then the row belongs to the content,
and so does a byte after it that could have begun a line end or the end of the form. -/
def afterRow (length : Nat) : Bytes → Place
  | [] | [13] | [45] => .ending .cut
  | 13 :: 10 :: rest => .ending (.part rest)
  | 45 :: 45 :: _ => .ending .form
  | b :: rest =>
    if isPadding b then
      match rest.dropWhile isPadding with
      | [] | [13] => .ending .cut
      | 13 :: 10 :: rest => .ending (.part rest)
      | _ => .ending .malformed
    else if b == 13 || b == 45 then .content length
    else .content (length - 1)

/-- What the place is where these bytes begin. -/
def placeAt (row bytes : Bytes) : Place :=
  match beginning row bytes with
  | .complete rest => afterRow row.length rest
  | .cut => .ending .cut
  | .different => .content 0

/-- The content of a part up to the row that ends it, and what comes then. `before` holds the
content so far in reverse order, to which the next `sure` bytes belong too. -/
def contentFrom (row before : Bytes) (sure : Nat) : Bytes → Bytes × Ending
  | [] => (before.reverse, .cut)
  | b :: bytes =>
    match sure with
    | sure + 1 => contentFrom row (b :: before) sure bytes
    | 0 =>
      match placeAt row (b :: bytes) with
      | .ending ending => (before.reverse, ending)
      | .content more => contentFrom row (b :: before) more bytes

/-- The content of a part up to the line of the boundary that ends it, and what comes then. -/
def content (boundary bytes : Bytes) : Bytes × Ending :=
  contentFrom (lineEnd ++ hyphens ++ boundary) [] 0 bytes

/-! ## Heads -/

/-- The most lines in a head. -/
def maxLines : Nat := 8

/-- The most bytes of a line in a head. -/
def maxLineBytes : Nat := 4224

/-- The characters of names of head lines. -/
def isNameByte (b : UInt8) : Bool :=
  let c := Char.ofNat b.toNat
  c.isAlphanum || "!#$%&'*+-.^_`|~".toList.contains c

/-- A line of a head as a name in small letters and a value, and what follows it; `none` if the
bytes end before. -/
def line? (bytes : Bytes) : Except FormFault (Option ((String × Bytes) × Bytes)) :=
  let (line, rest) := bytes.span (· != 13)
  if line.length > maxLineBytes then .error .malformed
  else match line.span isNameByte with
    | (name, 58 :: value) =>
      if name.isEmpty then .error .malformed
      else match rest with
        | [] | [_] => .ok none
        | _ :: 10 :: rest => .ok (some ((lower (ofLatin1 name), value.dropWhile (· == 32)), rest))
        | _ => .error .malformed
    | (_, []) => if rest.isEmpty then .ok none else .error .malformed
    | _ => .error .malformed

/-- The lines of a head, of which `left` may still come, and what follows the empty line; `none` if
the bytes end before. -/
def headFrom (left : Nat) (bytes : Bytes) :
    Except FormFault (Option (List (String × Bytes) × Bytes)) :=
  match bytes with
  | [] | [13] => .ok none
  | 13 :: 10 :: rest => .ok (some ([], rest))
  | _ =>
    match left with
    | 0 => .error .malformed
    | left + 1 => do
      match ← line? bytes with
      | none => return none
      | some (line, rest) =>
        return (← headFrom left rest).map fun (lines, rest) => (line :: lines, rest)

/-- The lines of a head and what follows the empty line. -/
def head (bytes : Bytes) : Except FormFault (Option (List (String × Bytes) × Bytes)) :=
  headFrom maxLines bytes

/-- The text that bytes are taken for. -/
def textOf (charset : Option Charset) (bytes : Bytes) : Except FormFault LooseText :=
  match Charset.textOf? charset bytes with
  | some text => .ok text
  | none => .error .unreadable

/-- The text that a parameter stands for, whose bytes were read as Latin-1. -/
def reread (charset : Option Charset) (value : String) : Except FormFault LooseText :=
  textOf charset ((latin1? value).getD [])

/-- A file name; one that begins with a drive or a share keeps only what follows its last
backslash. -/
def plainFileName (name : String) : String :=
  let cs := name.toList
  if (cs.drop 1).take 2 = [':', '\\'] ∨ cs.take 2 = ['\\', '\\'] then
    String.ofList (cutLast '\\' cs).2
  else name

/-- What the head of a part says of it. The file name is still to be reread. -/
structure Heading where
  name : LooseText
  fileName : Option String
  contentType : Option String

/-- What the lines of a head say. -/
def Heading.of? (charset : Option Charset) (lines : List (String × Bytes)) :
    Except FormFault Heading :=
  let disposition := (lines.reverse.lookup "content-disposition").getD []
  let parameters := Parameters.of (ofLatin1 disposition)
  match parameters.get? "name" with
  | none => .error .noName
  | some name => do
    return {
      name := ← reread charset name
      fileName := (parameters.get? "filename").map plainFileName
      contentType := (lines.lookup "content-type").map ofLatin1 }

/-- The part with this heading, file name and content. -/
def Heading.part (charset : Option Charset) (heading : Heading) (fileName : Option LooseText)
    (content : Bytes) : Except FormFault Part :=
  match fileName with
  | some name => .ok ⟨heading.name, .file name heading.contentType content⟩
  | none => (textOf charset content).map fun text => ⟨heading.name, .text text⟩

/-! ## Forms -/

/-- The parts that follow a boundary line. Every part takes a byte at least, so `fuel` bounds their
number. -/
def partsFrom (charset : Option Charset) (boundary : Bytes) (tally : Tally) :
    (fuel : Nat) → Bytes → Except FormFault (List Part)
  | 0, _ => .ok []
  | fuel + 1, bytes => do
    match ← head bytes with
    | none => return []
    | some (lines, rest) =>
      let heading ← Heading.of? charset lines
      let tally ← tally.count? heading.fileName.isSome
      let fileName ← heading.fileName.mapM (reread charset)
      let (content, ending) := content boundary rest
      if fileName.isNone && content.length > maxTextBytes then throw .largePart
      let part := heading.part charset fileName content
      match ending with
      | .part rest => return (← part) :: (← partsFrom charset boundary tally fuel rest)
      | .form => return [← part]
      | .cut => return []
      | .malformed => throw .malformed

/-- The most bytes of a boundary. -/
def maxBoundaryBytes : Nat := 256

/-- The bytes from the first boundary on. Where a line end comes first, everything before the first
hyphen does not count. -/
def opening (bytes : Bytes) : Bytes :=
  match bytes with
  | 13 :: rest | 10 :: rest => rest.dropWhile (· != 45)
  | _ => bytes

/-- The parts of a form. -/
def read (charset : Option Charset) (boundary body : Bytes) : Except FormFault (List Part) :=
  if boundary.length > maxBoundaryBytes then .error .malformed
  else match beginning (hyphens ++ boundary) (opening body) with
    | .cut => .ok []
    | .different => .error .malformed
    | .complete rest =>
      match rest with
      | [] | [13] | [45] => .ok []
      | 13 :: 10 :: rest => partsFrom charset boundary ⟨0, 0⟩ (body.length + 1) rest
      | 45 :: 45 :: _ => .ok []
      | _ => .error .malformed

end MediaDepot.Http.Multipart
