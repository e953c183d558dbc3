import MediaDepot.Fault
import MediaDepot.Uid

/-!
# Drawing identifiers

New identifiers are drawn at random until one is not zero.

* `Lot` — the numbers still to be drawn: some that are given, then one, two, three and so on.
* `Uid.draw` — the next identifier.
-/

namespace MediaDepot

/-- The numbers still to be drawn. -/
structure Lot where
  given : List Int := []
  /-- The next number when no given one is left. -/
  next : UInt64 := 1
  deriving Repr, Inhabited

namespace Uid

/-- The identifier of the first number that is not zero, and the given numbers after it. `none` if
all given numbers are zero. -/
def drawGiven : List Int → Option (Except ValueFault Uid × List Int)
  | [] => none
  | n :: rest =>
    if n = 0 then drawGiven rest
    else match ofInt? n with
      | some uid => some (.ok uid, rest)
      | none => some (.error .uidRange, rest)

/-- The next identifier. -/
def draw (lot : Lot) : Except ValueFault Uid × Lot :=
  match drawGiven lot.given with
  | some (uid, rest) => (uid, { lot with given := rest })
  | none => (.ok ⟨lot.next⟩, ⟨[], lot.next + 1⟩)

/-- The next few identifiers, up to the first number that names none. -/
def drawMany : (count : Nat) → Lot → Except ValueFault (List Uid) × Lot
  | 0, lot => (.ok [], lot)
  | count + 1, lot =>
    match draw lot with
    | (.error fault, lot) => (.error fault, lot)
    | (.ok uid, lot) =>
      let (rest, lot) := drawMany count lot
      (rest.map (uid :: ·), lot)

end Uid

end MediaDepot
