import MediaDepot.Text.Quoted
import MediaDepot.Url.Host

/-!
# Parts of a URL

A URL is split without being decoded. Control characters and blanks in front, tabs and line ends
anywhere are dropped first. The fragment is cut off before the query.

* `Url.split` — the parts, or why there are none.
* `Url.Fault.message` — what is wrong with the host.
-/

namespace MediaDepot

/-- The parts of a URL. -/
structure Url where
  scheme : List Char
  host : List Char
  path : List Char
  query : List Char
  fragment : List Char
  deriving DecidableEq, Repr

namespace Url

open Text

/-- Why a URL cannot be split. -/
inductive Fault where
  /-- A bracket of the host has no partner, or something stands beside the brackets. -/
  | unpairedBracket
  /-- The host in brackets begins like the reserved form but does not have it. -/
  | futureAddress
  /-- The host in brackets is an address of the shorter kind. -/
  | address4
  /-- The host in brackets is no address. -/
  | noAddress (host : String)
  /-- A character of the host is equivalent to one that ends it. -/
  | disguisedDelimiter (host : String)
  deriving DecidableEq, Repr

/-- The text of a fault. -/
def Fault.message : Fault → String
  | .unpairedBracket => "Invalid IPv6 URL"
  | .futureAddress => "IPvFuture address is invalid"
  | .address4 => "An IPv4 address cannot be in brackets"
  | .noAddress host => quoted host ++ " does not appear to be an IPv4 or IPv6 address"
  | .disguisedDelimiter host =>
    "netloc '" ++ host ++ "' contains invalid characters under NFKC normalization"

/-- The characters dropped in front of a URL. -/
def isFrontBlank (c : Char) : Bool := c.toNat ≤ 32

/-- The characters dropped anywhere in a URL. -/
def isDropped (c : Char) : Bool := c == '\t' || c == '\n' || c == '\r'

/-- The URL without what is dropped from it. -/
def clean (cs : List Char) : List Char :=
  (cs.dropWhile isFrontBlank).filter fun c => !isDropped c

/-- The characters of a scheme. -/
def isSchemeChar (c : Char) : Bool := c.isAlphanum || c == '+' || c == '-' || c == '.'

/-- The scheme in small letters and the rest; without a scheme, all is rest. -/
def splitScheme (cs : List Char) : List Char × List Char :=
  match cut ':' cs with
  | (c :: name, some rest) =>
    if c.isAlpha && name.all isSchemeChar then ((c :: name).map Char.toLower, rest) else ([], cs)
  | _ => ([], cs)

/-- The characters that end a host. -/
def endsHost (c : Char) : Bool := c == '/' || c == '?' || c == '#'

/-- The host after two slashes and the rest; without them, all is rest. -/
def splitHost : List Char → List Char × List Char
  | '/' :: '/' :: rest => rest.span fun c => !endsHost c
  | cs => ([], cs)

/-- The part before a separator and the part after it, empty if there is none. -/
def splitAt (sep : Char) (cs : List Char) : List Char × List Char :=
  ((cut sep cs).1, (cut sep cs).2.getD [])

/-- The code points beyond ASCII whose compatible form holds a slash, a question mark, a number
sign, an at sign or a colon. -/
def disguises : List Nat := [
  8263, 8264, 8265, 8448, 8449, 8453, 8454, 10868, 65043, 65046, 65109, 65110, 65119, 65131, 65283,
  65295, 65306, 65311, 65312]

/-- What is wrong with a host that stands in brackets. -/
def addressFault? (host : List Char) : Option Fault :=
  if host.head? = some 'v' then if isFutureAddress host then none else some .futureAddress
  else if isAddress4 host then some .address4
  else if isAddress6 host then none
  else some (.noAddress (String.ofList host))

/-- What is wrong with the brackets of a host: they must surround all of it, apart from the name of
a user before it and a port after it. If only the user's name has brackets, the host itself is held
to the same rules. -/
def bracketFault? (host : List Char) : Option Fault :=
  match host.contains '[', host.contains ']' with
  | true, true =>
    match cut '[' (cutLast '@' host).2 with
    | ([], some inner) =>
      match cut ']' inner with
      | (address, some (c :: _)) => if c = ':' then addressFault? address else some .unpairedBracket
      | (address, _) => addressFault? address
    | (_, some _) => some .unpairedBracket
    | (name, none) => addressFault? (cut ':' name).1
  | false, false => none
  | _, _ => some .unpairedBracket

/-- What is wrong with a host. -/
def hostFault? (host : List Char) : Option Fault :=
  (bracketFault? host).or <|
    if host.any fun c => disguises.contains c.toNat then
      some (.disguisedDelimiter (String.ofList host))
    else none

/-- The parts of a URL. -/
def split (url : String) : Except Fault Url :=
  let (scheme, rest) := splitScheme (clean url.toList)
  let (host, rest) := splitHost rest
  let (rest, fragment) := splitAt '#' rest
  let (path, query) := splitAt '?' rest
  match hostFault? host with
  | some fault => .error fault
  | none => .ok ⟨scheme, host, path, query, fragment⟩

end Url

end MediaDepot
