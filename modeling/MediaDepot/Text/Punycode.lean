import MediaDepot.Bytes
import MediaDepot.Text.Charset.Fault
import MediaDepot.Text.Loose
import MediaDepot.Text.Pieces

/-!
# Punycode

A text as bytes of ASCII: first its ASCII characters, then, after the last hyphen, digits that tell
which other characters are inserted and where. The digits make up numbers of any size; how many
places a number takes depends on a bias, which follows the numbers read so far.

* `Punycode.number?` — the number at the beginning of digits; `length_lt_of_number?` says that it
  takes a digit at least.
* `Punycode.decode` — the text of bytes. A number may insert a half of a surrogate pair.
-/

namespace MediaDepot.Text.Punycode

/-- The value of a digit: letters come before figures, and capitals count as small letters. -/
def digit? (b : UInt8) : Option Nat :=
  let c := Char.ofNat b.toNat
  if c.isUpper then some (c.toNat - 65)
  else if c.isLower then some (c.toNat - 97)
  else if c.isDigit then some (c.toNat - 22)
  else none

/-- The least digit that does not end a number, by its place and the bias. -/
def threshold (place bias : Nat) : Nat := max 1 (min 26 (36 * (place + 1) - bias))

/-- The number at the beginning of digits and what follows it. Digits from `place` on are read, the
next of them with the given weight. -/
def number? (bias place weight : Nat) : Bytes → Option (Nat × Bytes)
  | [] => none
  | b :: rest => do
    let digit ← digit? b
    let limit := threshold place bias
    if digit < limit then return (digit * weight, rest)
    let (number, rest) ← number? bias (place + 1) (weight * (36 - limit)) rest
    return (digit * weight + number, rest)

/-- A number takes a digit at least. -/
theorem length_lt_of_number? {bias place weight number : Nat} {bytes rest : Bytes}
    (h : number? bias place weight bytes = some (number, rest)) : rest.length < bytes.length := by
  induction bytes generalizing place weight number with
  | nil => simp [number?] at h
  | cons b more ih =>
    rw [number?] at h
    cases hd : digit? b with
    | none => simp [hd] at h
    | some digit =>
      simp only [hd, Option.bind_eq_bind, Option.bind_some] at h
      split at h
      · cases h
        simp
      · cases hn : number? bias (place + 1) (weight * (36 - threshold place bias)) more with
        | none => simp [hn] at h
        | some found =>
          obtain ⟨n, after⟩ := found
          simp only [hn, Option.bind_some, Option.pure_def, Option.some.injEq, Prod.mk.injEq] at h
          obtain ⟨_, rfl⟩ := h
          have := ih hn
          simp only [List.length_cons]
          omega

/-- How often 35 goes into a number until it is small, and what it is then. -/
def shrink (delta : Nat) : Nat × Nat :=
  if 455 < delta then
    let (times, small) := shrink (delta / 35)
    (times + 1, small)
  else (0, delta)
termination_by delta
decreasing_by omega

/-- The bias after a number, by the length of the text into which it has inserted a character. -/
def adapt (delta length : Nat) (isFirst : Bool) : Nat :=
  let delta := if isFirst then delta / 700 else delta / 2
  let (times, small) := shrink (delta + delta / length)
  36 * times + 36 * small / (small + 38)

/-- What is known between two numbers. -/
structure State where
  text : List Nat
  /-- The last character that was inserted. -/
  code : Nat := 0x80
  /-- The first place at which it may be inserted again. -/
  place : Nat := 0
  bias : Nat := 72
  isFirst : Bool := true

/-- The state after a number, unless it leads beyond the last code point. -/
def State.insert? (state : State) (delta : Nat) : Option State :=
  let length := state.text.length + 1
  let code := state.code + (state.place + delta) / length
  let place := (state.place + delta) % length
  if code < 0x110000 then
    some {
      text := state.text.insertIdx place code, code, place := place + 1,
      bias := adapt delta length state.isFirst, isFirst := false }
  else none

/-- The text after all insertions. -/
def insertAll? (state : State) (digits : Bytes) : Option (List Nat) :=
  if digits.isEmpty then some state.text
  else match _h : number? state.bias 0 1 digits with
    | none => none
    | some (delta, rest) => (state.insert? delta).bind fun state => insertAll? state rest
termination_by digits.length
decreasing_by exact length_lt_of_number? _h

/-- The ASCII characters of a text and the digits for the others. Without a hyphen everything is
digits. -/
def split (bytes : Bytes) : Option Bytes × Bytes := cutLast 45 bytes

/-- The text of bytes. -/
def decode (bytes : Bytes) : Except CharsetFault LooseText :=
  if bytes.any (128 ≤ ·) then .error .noText
  else
    let (base, digits) := split bytes
    match insertAll? { text := (base.getD []).map UInt8.toNat } digits with
    | some codes => .ok (codes.map .ofCode)
    | none => .error .broken

end MediaDepot.Text.Punycode
