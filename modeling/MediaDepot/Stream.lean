import MediaDepot.Digest.Md5
import MediaDepot.Fault
import MediaDepot.Number.Integer

/-!
# Streams of bytes

The bytes of an upload arrive by reading. A reading may fail: at the place of a fault all later ones
fail too, and sizes that are too large for bytes at hand are refused.

* `Readable` — what can be read, with a size or without one.
* `Source` — bytes yet to be read, and the fault that comes after them, if any.
* `Counter` — something readable and the number of bytes handed out so far.
* `Hasher` — a counter and the digest of the bytes handed out so far.
* `Counter.drain`, `Hasher.drain` — reading piece by piece until there is nothing more.
-/

namespace MediaDepot

/-- What can be read. The size may be left out, which means everything, as the size −1 does. -/
class Readable (σ : Type) where
  /-- Reads with a size or without one. -/
  read : σ → Option Int → Except Fault Bytes × σ
  read_none (stream : σ) : read stream none = read stream (some (-1))

/-- Bytes that can be read once. -/
structure Source where
  rest : Bytes
  fault : Option Fault
  /-- Are the bytes at hand? Then the size of a reading must fit into a machine word. -/
  atHand : Bool
  deriving Repr, Inhabited

namespace Source

/-- A source of bytes that are at hand. -/
def ofBytes (bytes : Bytes) : Source := ⟨bytes, none, true⟩

/-- A source of bytes that come from elsewhere: a reading that starts at the offset of the fault or
after it fails. -/
def failing (bytes : Bytes) (offset : Int) (fault : Fault) : Source :=
  if offset ≤ bytes.length then ⟨bytes.take offset.toNat, some fault, false⟩
  else ⟨bytes, none, false⟩

/-- What is wrong with a size that does not fit into a machine word. -/
def sizeFault : Fault := .overflow "cannot fit 'int' into an index-sized integer"

/-- Can bytes of this size be asked for? -/
def takes (source : Source) (size : Option Int) : Bool :=
  !source.atHand || (size.map Number.fitsWord).getD true

/-- How many bytes a reading of the given size may take of so many. -/
def quota (size : Option Int) (available : Nat) : Nat :=
  match size with
  | some n => if n < 0 then available else n.toNat
  | none => available

/-- Reads at most as many bytes as asked for; all of them without a size or with a negative one. -/
def read (source : Source) (size : Option Int) : Except Fault Bytes × Source :=
  if source.takes size then
    match source.rest, source.fault with
    | [], some fault => (.error fault, source)
    | bytes, _ =>
      let n := quota size bytes.length
      (.ok (bytes.take n), { source with rest := bytes.drop n })
  else (.error sizeFault, source)

theorem read_none (source : Source) : source.read none = source.read (some (-1)) := by
  have hfits : source.takes (some (-1)) = source.takes none := by
    have hword : Number.fitsWord (-1) = true := by decide
    simp [takes, hword]
  simp only [read, hfits, quota, show (-1 : Int) < 0 by decide, if_true]

instance : Readable Source := ⟨read, read_none⟩

@[simp] theorem readable_read (source : Source) (size : Option Int) :
    Readable.read source size = source.read size := rfl

end Source

/-- The size that is passed on for a reading: everything, if none is given. -/
def passedSize (size : Option Int) : Option Int := some (size.getD (-1))

@[simp] theorem passedSize_some (size : Int) : passedSize (some size) = some size := rfl

/-- The size that is passed on is as good as the one that was given. -/
@[simp] theorem Readable.read_passedSize {σ : Type} [Readable σ] (stream : σ) (size : Option Int) :
    Readable.read stream (passedSize size) = Readable.read stream size := by
  cases size with
  | none => exact (Readable.read_none stream).symm
  | some size => rfl

/-- Something readable together with the number of bytes that it handed out. -/
structure Counter (σ : Type := Source) where
  source : σ
  count : Nat
  deriving Inhabited

namespace Counter

variable {σ : Type}

/-- A counter at the beginning of what it reads. -/
def of (source : σ) : Counter σ := ⟨source, 0⟩

/-- Reads and counts what came. -/
def read [Readable σ] (reader : Counter σ) (size : Option Int) : Except Fault Bytes × Counter σ :=
  match Readable.read reader.source (passedSize size) with
  | (.ok chunk, source) => (.ok chunk, ⟨source, reader.count + chunk.length⟩)
  | (.error fault, source) => (.error fault, ⟨source, reader.count⟩)

instance [Readable σ] : Readable (Counter σ) := ⟨read, fun _ => rfl⟩

@[simp] theorem readable_read [Readable σ] (reader : Counter σ) (size : Option Int) :
    Readable.read reader size = reader.read size := rfl

end Counter

/-- A counter that keeps a digest of the bytes it hands out. -/
structure Hasher (σ : Type := Source) where
  counter : Counter σ
  digest : Digest.Md5.Context

namespace Hasher

variable {σ : Type}

/-- A hasher at the beginning of what it reads. -/
def of (source : σ) : Hasher σ := ⟨.of source, {}⟩

/-- Reads, counts what came and takes it into the digest. -/
def read [Readable σ] (reader : Hasher σ) (size : Option Int) : Except Fault Bytes × Hasher σ :=
  match reader.counter.read (passedSize size) with
  | (.ok chunk, counter) => (.ok chunk, ⟨counter, reader.digest.update chunk⟩)
  | (.error fault, counter) => (.error fault, ⟨counter, reader.digest⟩)

instance [Readable σ] : Readable (Hasher σ) := ⟨read, fun _ => rfl⟩

@[simp] theorem readable_read [Readable σ] (reader : Hasher σ) (size : Option Int) :
    Readable.read reader size = reader.read size := rfl

/-- How many bytes were handed out. -/
def count (reader : Hasher σ) : Nat := reader.counter.count

/-- The text of the digest. -/
def hexDigest (reader : Hasher σ) : String := reader.digest.hexDigest

end Hasher

/-- Reads pieces of one size until an empty one comes: the bytes read, the fault that ended the
reading if one did, and the reader afterwards. `fuel` bounds the number of readings; each but the
last takes a byte. -/
def drainWith {ρ : Type} (read : ρ → Except Fault Bytes × ρ) :
    (fuel : Nat) → ρ → Bytes × Option Fault × ρ
  | 0, reader => ([], none, reader)
  | fuel + 1, reader =>
    match read reader with
    | (.error fault, reader) => ([], some fault, reader)
    | (.ok [], reader) => ([], none, reader)
    | (.ok chunk, reader) =>
      let (bytes, fault, reader) := drainWith read fuel reader
      (chunk ++ bytes, fault, reader)

/-- Reads the rest of a counted source in pieces. -/
def Counter.drain (reader : Counter) (size : Int) : Bytes × Option Fault × Counter :=
  drainWith (·.read (some size)) (reader.source.rest.length + 1) reader

/-- Reads the rest of a hashed source in pieces. -/
def Hasher.drain (reader : Hasher) (size : Int) : Bytes × Option Fault × Hasher :=
  drainWith (·.read (some size)) (reader.counter.source.rest.length + 1) reader

end MediaDepot
