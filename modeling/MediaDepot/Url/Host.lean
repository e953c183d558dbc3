import MediaDepot.Bytes
import MediaDepot.Text.Pieces

/-!
# Hosts

A host is a name or stands in brackets: a numeric address of the longer kind, with or without a
zone, or the form reserved for later kinds.

* `isAddress4`, `isAddress6` — the texts of numeric addresses.
* `isFutureAddress` — the reserved form: a `v`, hexadecimal digits, a point and something more.
* `isAuthority` — a host that is well-formed in every character, without a zone, and perhaps a port.
-/

namespace MediaDepot.Url

open Text

/-- A decimal number from 0 to 255 without leading zeros. -/
def isOctet (cs : List Char) : Bool :=
  !cs.isEmpty && cs.all Char.isDigit && cs.length ≤ 3 && (cs == ['0'] || cs.head? != some '0')
    && cs.foldl (fun n c => 10 * n + (c.toNat - 48)) 0 ≤ 255

/-- Four numbers joined by points. -/
def isAddress4 (cs : List Char) : Bool :=
  let parts := pieces '.' cs
  parts.length == 4 && parts.all isOctet

/-- Is the character a hexadecimal digit? -/
def isHexDigit (c : Char) : Bool := (Bytes.hexValue? c).isSome

/-- One to four hexadecimal digits. -/
def isGroup (cs : List Char) : Bool := !cs.isEmpty && cs.length ≤ 4 && cs.all isHexDigit

/-- The parts between colons, with two groups in place of an address of the shorter kind at the
end. -/
def groupParts? (cs : List Char) : Option (List (List Char)) :=
  let parts := pieces ':' cs
  if parts.length < 3 then none
  else
    let last := parts.getLast?.getD []
    if last.contains '.' then
      if isAddress4 last then some (parts.dropLast ++ [['0'], ['0']]) else none
    else some parts

/-- Are the parts eight groups, or fewer with one gap? An empty part at either end is allowed only
where the gap stands. -/
def areGroups (parts : List (List Char)) : Bool :=
  let inner := (parts.drop 1).dropLast
  match inner.findIdx? List.isEmpty with
  | none => parts.length == 8 && parts.all isGroup
  | some i =>
    let before := parts.take (i + 1)
    let after := parts.drop (i + 2)
    let before := if before == [[]] then [] else before
    let after := if after == [[]] then [] else after
    parts.length ≤ 9 && before.length + after.length ≤ 7 && before.all isGroup && after.all isGroup

/-- An address without a zone. -/
def isPlainAddress6 (cs : List Char) : Bool :=
  match groupParts? cs with
  | some parts => areGroups parts
  | none => false

/-- An address, with or without a zone after a percent sign. -/
def isAddress6 (cs : List Char) : Bool :=
  !cs.contains '/' &&
    match cut '%' cs with
    | (address, none) => isPlainAddress6 address
    | (address, some zone) => !zone.isEmpty && !zone.contains '%' && isPlainAddress6 address

/-- The form reserved for later kinds of addresses. -/
def isFutureAddress : List Char → Bool
  | 'v' :: rest =>
    match cut '.' rest with
    | (digits, some more) => !digits.isEmpty && digits.all isHexDigit && !more.isEmpty
    | (_, none) => false
  | _ => false

/-- The characters of a reserved form, besides the colon. -/
def isPlainChar (c : Char) : Bool := c.isAlphanum || "-._~!$&'()*+,;=".toList.contains c

/-- The characters of a name. What follows a percent sign is not looked at. -/
def isNameChar (c : Char) : Bool := isPlainChar c || c == '%'

/-- The reserved form, in which every character is one of a name or a colon. -/
def isPlainFutureAddress (cs : List Char) : Bool :=
  isFutureAddress cs && cs.all fun c => isPlainChar c || c == ':'

/-- A port in decimal digits. -/
def isPort (cs : List Char) : Bool :=
  !cs.isEmpty && cs.all Char.isDigit
    && cs.foldl (fun n c => 10 * n + (c.toNat - 48)) 0 ≤ 65535

/-- A host and perhaps a port after a colon. -/
def isAuthority (cs : List Char) : Bool :=
  let (host, rest) : Bool × List Char :=
    match cs with
    | '[' :: more =>
      match cut ']' more with
      | (address, some rest) => (isPlainAddress6 address || isPlainFutureAddress address, rest)
      | (_, none) => (false, [])
    | _ =>
      let name := cs.takeWhile (· != ':')
      (!name.isEmpty && name.all isNameChar, cs.drop name.length)
  host && match rest with
    | [] => true
    | ':' :: port => isPort port
    | _ => false

end MediaDepot.Url
