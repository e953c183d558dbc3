import MediaDepot.Proofs.Reading

/-!
# MediaDepot.Proofs.Readers

**To count and to hash what is read changes nothing of it.** Whatever can be read answers readings
one after the other, with sizes or without, and may fail at each of them. A counter or a hasher
around it is where the bare stream would be, and what else it knows depends on the bytes alone that
have come so far; one reading keeps it so (`Attends`). By induction on the readings it answers as
the bare stream does, and in the end it knows the bytes that have come until then
(`Attends.answers_eq`, `Attends.after_eq`).

Nothing is asked of the stream but that a reading without a size is one with a negative size: it may
give less than asked for, and after a failure it may fail again or go on.
-/

namespace MediaDepot

namespace Readable

/-! ### Readings one after the other -/

section Readings

variable {σ : Type} [Readable σ]

/-- What the readings give, each a piece or a fault. -/
def answers (stream : σ) : List (Option Int) → List (Except Fault Bytes)
  | [] => []
  | size :: sizes => (read stream size).1 :: answers (read stream size).2 sizes

/-- What is left to read after the readings. -/
def after (stream : σ) (sizes : List (Option Int)) : σ :=
  sizes.foldl (fun stream size => (read stream size).2) stream

/-- The bytes that come with all the readings. -/
def delivered (stream : σ) (sizes : List (Option Int)) : Bytes :=
  (answers stream sizes).flatMap bytesOf

@[simp] theorem after_nil (stream : σ) : after stream [] = stream := rfl

@[simp] theorem after_cons (stream : σ) (size : Option Int) (sizes : List (Option Int)) :
    after stream (size :: sizes) = after (read stream size).2 sizes := rfl

@[simp] theorem delivered_nil (stream : σ) : delivered stream [] = [] := rfl

@[simp] theorem delivered_cons (stream : σ) (size : Option Int) (sizes : List (Option Int)) :
    delivered stream (size :: sizes) =
      bytesOf (read stream size).1 ++ delivered (read stream size).2 sizes := rfl

end Readings

/-! ### Readers that attend to a stream -/

/-- **A reader attends to a stream.** Its state is made of what is left of the stream and of the
bytes that came so far; each reading of it is one of the stream, whose bytes it takes in. -/
def Attends {σ ρ : Type} [Readable σ] [Readable ρ] (state : σ → Bytes → ρ) : Prop :=
  ∀ stream bytes size, read (state stream bytes) size =
    ((read stream size).1, state (read stream size).2 (bytes ++ bytesOf (read stream size).1))

namespace Attends

variable {σ ρ : Type} [Readable σ] [Readable ρ] {state : σ → Bytes → ρ}

/-- **The reader answers as the bare stream does**, however often it is read. -/
theorem answers_eq (attends : Attends state) (stream : σ) (bytes : Bytes)
    (sizes : List (Option Int)) : answers (state stream bytes) sizes = answers stream sizes := by
  induction sizes generalizing stream bytes with
  | nil => rfl
  | cons size sizes ih =>
      simp only [answers, attends stream bytes size]
      rw [ih]

/-- **The reader has moved on as the bare stream does** and has taken in all that came. -/
theorem after_eq (attends : Attends state) (stream : σ) (bytes : Bytes)
    (sizes : List (Option Int)) :
    after (state stream bytes) sizes =
      state (after stream sizes) (bytes ++ delivered stream sizes) := by
  induction sizes generalizing stream bytes with
  | nil => simp
  | cons size sizes ih =>
      rw [after_cons, attends stream bytes size, ih]
      simp

end Attends

end Readable

/-! ### Counters and hashers -/

namespace Counter

variable {σ : Type}

/-- The counter that has handed out these bytes. -/
def having (stream : σ) (bytes : Bytes) : Counter σ := ⟨stream, bytes.length⟩

theorem having_nil (stream : σ) : having stream [] = of stream := rfl

theorem count_having (stream : σ) (bytes : Bytes) :
    (having stream bytes).count = bytes.length := rfl

variable [Readable σ]

theorem attends : Readable.Attends (having : σ → Bytes → Counter σ) := by
  intro stream bytes size
  rw [readable_read, read_eq]
  simp [having]

/-- A reading that fails is not counted. -/
theorem count_of_fault {reader : Counter σ} {size : Option Int} {fault : Fault}
    (h : (reader.read size).1 = .error fault) : (reader.read size).2.count = reader.count := by
  rw [read_eq] at h ⊢
  have hnothing : Readable.bytesOf (Readable.read reader.source size).1 = [] := by
    rw [show (Readable.read reader.source size).1 = .error fault from h, Readable.bytesOf]
  simp [hnothing]

end Counter

namespace Hasher

variable {σ : Type}

/-- The hasher that has handed out these bytes. -/
def having (stream : σ) (bytes : Bytes) : Hasher σ :=
  ⟨.having stream bytes, ({} : Digest.Md5.Context).update bytes⟩

theorem having_nil (stream : σ) : having stream [] = of stream := by
  simp [having, of, Counter.having, Counter.of]

theorem count_having (stream : σ) (bytes : Bytes) :
    (having stream bytes).count = bytes.length := rfl

theorem hexDigest_having (stream : σ) (bytes : Bytes) :
    (having stream bytes).hexDigest = Digest.Md5.hexDigest bytes :=
  Digest.Md5.Context.hexDigest_update bytes

variable [Readable σ]

theorem attends : Readable.Attends (having : σ → Bytes → Hasher σ) := by
  intro stream bytes size
  rw [readable_read, read, Counter.read_eq, Readable.read_passedSize]
  simp only [having, Counter.having]
  -- the digest takes nothing in at a fault, which is to take in no bytes
  cases (Readable.read stream size).1 with
  | error fault => simp [Readable.bytesOf]
  | ok chunk => simp [Readable.bytesOf]

/-- A reading that fails is not counted and leaves the digest as it is. -/
theorem unchanged_of_fault {reader : Hasher σ} {size : Option Int} {fault : Fault}
    (h : (reader.read size).1 = .error fault) :
    (reader.read size).2.count = reader.count ∧
      (reader.read size).2.hexDigest = reader.hexDigest := by
  rw [read, Counter.read_eq] at h ⊢
  cases hanswer : (Readable.read reader.counter.source (passedSize size)).1 with
  | error failed => simp [Readable.bytesOf, count, hexDigest]
  | ok chunk =>
      rw [hanswer] at h
      cases h

end Hasher

namespace Readable

/-- **What is counted and hashed is what is read.** However something is read, with any sizes or
without, a counter and a hasher around it answer each reading as it would itself. After each of the
readings the count is the number of bytes that have come until then, and the digest is that of these
bytes in their order; a reading that fails changes neither. -/
theorem counts_and_hashes_as_read {σ : Type} [Readable σ] (stream : σ) (sizes : List (Option Int)) :
    answers (Counter.of stream) sizes = answers stream sizes ∧
      answers (Hasher.of stream) sizes = answers stream sizes ∧
      ∀ n : Nat,
        let counter := after (Counter.of stream) (sizes.take n)
        let hasher := after (Hasher.of stream) (sizes.take n)
        let bytes := delivered stream (sizes.take n)
        counter.count = bytes.length ∧ hasher.count = bytes.length ∧
          hasher.hexDigest = Digest.Md5.hexDigest bytes ∧
          (∀ size fault, (counter.read size).1 = .error fault →
            (counter.read size).2.count = counter.count) ∧
          ∀ size fault, (hasher.read size).1 = .error fault →
            (hasher.read size).2.count = hasher.count ∧
              (hasher.read size).2.hexDigest = hasher.hexDigest := by
  rw [← Hasher.having_nil, ← Counter.having_nil]
  refine ⟨Counter.attends.answers_eq stream [] sizes, Hasher.attends.answers_eq stream [] sizes, ?_⟩
  intro n counter hasher bytes
  have hcounter : counter = .having (after stream (sizes.take n)) bytes :=
    Counter.attends.after_eq stream [] (sizes.take n)
  have hhasher : hasher = .having (after stream (sizes.take n)) bytes :=
    Hasher.attends.after_eq stream [] (sizes.take n)
  refine ⟨?_, ?_, ?_, fun size fault => Counter.count_of_fault,
    fun size fault => Hasher.unchanged_of_fault⟩
  · rw [hcounter, Counter.count_having]
  · rw [hhasher, Hasher.count_having]
  · rw [hhasher, Hasher.hexDigest_having]

/-- Five bytes that break off after the third: the second reading asks for nothing, the third for
all and gets less, the others fail. -/
theorem counts_and_hashes_as_read_of_failing :
    let broken : Fault := .io "connection reset"
    let stream := Source.failing [104, 101, 108, 108, 111] 3 broken
    let sizes := [some 2, some 0, none, none, some 1]
    let counter := after (Counter.of stream) sizes
    let hasher := after (Hasher.of stream) sizes
    answers stream sizes = [.ok [104, 101], .ok [], .ok [108], .error broken, .error broken] ∧
      answers (Hasher.of stream) sizes = answers stream sizes ∧
      hasher.count = 3 ∧ hasher.hexDigest = Digest.Md5.hexDigest [104, 101, 108] ∧
      (counter.read none).1 = .error broken ∧ (counter.read none).2.count = 3 ∧
      (hasher.read (some (-7))).1 = .error broken ∧ (hasher.read (some (-7))).2.count = 3 ∧
      (hasher.read (some (-7))).2.hexDigest = hasher.hexDigest := by
  intro broken stream sizes counter hasher
  obtain ⟨-, hanswers, hstates⟩ := counts_and_hashes_as_read stream sizes
  obtain ⟨hcounted, hcount, hdigest, hcounter, hhasher⟩ := hstates 5
  have hfailed : (counter.read none).1 = .error broken := rfl
  have hfault : (hasher.read (some (-7))).1 = .error broken := rfl
  obtain ⟨hsame, hkept⟩ := hhasher (some (-7)) broken hfault
  exact ⟨rfl, hanswers, hcount, hdigest, hfailed, (hcounter none broken hfailed).trans hcounted,
    hfault, hsame.trans hcount, hkept⟩

end Readable

end MediaDepot
