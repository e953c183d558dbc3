import MediaDepot.Text.Blank
import MediaDepot.Text.Case
import MediaDepot.Text.Utf8
import MediaDepot.Url.Split

/-!
# Queries

The query of a URL is a list of names and values joined by `&`. A field without a value does not
count.

* `Query.value?` — the first value of a name.
* `Query.isTrue` — which values say yes.
-/

namespace MediaDepot.Query

open Text

/-- The bytes of ASCII characters in which a percent sign and two hexadecimal digits stand for one
byte. Any other percent sign stands for itself. -/
def unescape : List Char → Bytes
  | '%' :: h :: l :: rest =>
    match Bytes.hexValue? h, Bytes.hexValue? l with
    | some high, some low => UInt8.ofNat (16 * high + low) :: unescape rest
    | _, _ => 37 :: unescape (h :: l :: rest)
  | c :: rest => UInt8.ofNat c.toNat :: unescape rest
  | [] => []

/-- The text of a run of ASCII characters, given in reverse order. -/
def decodeRun (run : List Char) : List Char := (ofUtf8Lossy (unescape run.reverse)).toList

/-- Decodes every run of ASCII characters by itself; `run` holds the current one in reverse
order. -/
def decodeRuns (run : List Char) : List Char → List Char
  | [] => decodeRun run
  | c :: rest =>
    if c.toNat < 128 then decodeRuns (c :: run) rest else decodeRun run ++ c :: decodeRuns [] rest

/-- The text written by a name or a value: a plus sign is a space. -/
def decode (cs : List Char) : String :=
  let cs := cs.map fun c => if c = '+' then ' ' else c
  String.ofList (if cs.contains '%' then decodeRuns [] cs else cs)

/-- The name and the value of a field that has a value. -/
def field? (cs : List Char) : Option (String × String) :=
  match cut '=' cs with
  | (name, some (c :: value)) => some (decode name, decode (c :: value))
  | _ => none

/-- The names and values of a query, in order. -/
def fields (query : List Char) : List (String × String) := (pieces '&' query).filterMap field?

/-- The first value of a name in the query of a URL. -/
def value? (url : String) (name : String) : Except Url.Fault (Option String) :=
  (Url.split url).map fun parts => (fields parts.query).lookup name

/-- The values that say yes, once blanks and capital letters are gone. -/
def trueWords : List String := ["1", "t", "true"]

/-- Does the value say yes? -/
def isTrue (value : Option String) : Bool := trueWords.contains (lower (trim (value.getD "")))

end MediaDepot.Query
