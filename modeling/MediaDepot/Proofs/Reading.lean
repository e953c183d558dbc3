import MediaDepot.Proofs.Digest
import MediaDepot.Stream

/-!
# MediaDepot.Proofs.Reading

**Reading a source in pieces gives exactly its bytes.** A reader that only looks on — a counter, a
hasher — answers every reading as its source does and moves on by the bytes it handed out
(`Follows`). For any such reader `drainWith` returns the bytes of the source and its fault, and
without a fault the reader ends up moved on by all of them (`Follows.drain`).

`Counter.advance` and `Hasher.advance` say what moving on means: the count grows by the number of
bytes, the digest takes the bytes in.

In pieces of whatever size, what was counted and what is left make up the source
(`Counter.count_drain`, `Hasher.count_drain`).
-/

namespace MediaDepot

/-! ### One reading -/

namespace Source

/-- Asking for at least one byte takes at least one if there is one. -/
theorem exists_read {source : Source} {size : Int} (h : source.rest ≠ [])
    (fits : source.takes (some size) = true) (pos : 0 < size) :
    ∃ b more left, source.rest = b :: more ++ left ∧
      source.read (some size) = (.ok (b :: more), { source with rest := left }) := by
  obtain ⟨rest, fault, atHand⟩ := source
  cases rest with
  | nil => exact absurd rfl h
  | cons b more =>
      obtain ⟨n, hn⟩ : ∃ n, size.toNat = n + 1 := ⟨size.toNat - 1, by omega⟩
      have hneg : ¬ size < 0 := by omega
      refine ⟨b, more.take n, more.drop n, by simp, ?_⟩
      simp [read, fits, quota, hneg, hn]

/-- At the end a source gives nothing, or fails if it has a fault. -/
theorem read_of_nil {source : Source} {size : Int} (h : source.rest = [])
    (fits : source.takes (some size) = true) :
    source.read (some size) =
      (match source.fault with
        | some fault => .error fault
        | none => .ok [], source) := by
  obtain ⟨rest, fault, atHand⟩ := source
  obtain rfl : rest = [] := h
  cases fault <;> simp [read, fits]

/-- What a source has left after a reading that gave something. -/
theorem after_read {source after : Source} {size : Option Int} {chunk : Bytes}
    (h : source.read size = (.ok chunk, after)) :
    after = { source with rest := source.rest.drop chunk.length } := by
  simp only [read] at h
  split at h
  · split at h
    · cases h
    · simp only [Prod.mk.injEq, Except.ok.injEq] at h
      obtain ⟨rfl, rfl⟩ := h
      rcases Nat.le_total (quota size source.rest.length) source.rest.length with hle | hle
      · simp [Nat.min_eq_left hle]
      · simp [Nat.min_eq_right hle, List.drop_eq_nil_of_le hle]
  · cases h

/-- A reading that fails takes nothing. -/
theorem after_fault {source after : Source} {size : Option Int} {fault : Fault}
    (h : source.read size = (.error fault, after)) : after = source := by
  unfold read at h
  split at h
  · split at h
    · simpa using (congrArg Prod.snd h).symm
    · cases h
  · simpa using (congrArg Prod.snd h).symm

end Source

/-- The bytes that an answer brings: none if it is a fault. -/
def Readable.bytesOf : Except Fault Bytes → Bytes
  | .ok chunk => chunk
  | .error _ => []

/-- **A reading of a counter** is one of what it reads; the bytes that come are counted. -/
theorem Counter.read_eq {σ : Type} [Readable σ] (reader : Counter σ) (size : Option Int) :
    reader.read size = ((Readable.read reader.source size).1,
      ⟨(Readable.read reader.source size).2,
        reader.count + (Readable.bytesOf (Readable.read reader.source size).1).length⟩) := by
  rw [read, Readable.read_passedSize]
  rcases Readable.read reader.source size with ⟨fault | chunk, left⟩ <;> rfl

/-- The counter after it handed out some bytes. -/
def Counter.advance (reader : Counter) (chunk : Bytes) : Counter :=
  ⟨{ reader.source with rest := reader.source.rest.drop chunk.length }, reader.count + chunk.length⟩

/-- The hasher after it handed out some bytes. -/
def Hasher.advance (reader : Hasher) (chunk : Bytes) : Hasher :=
  ⟨reader.counter.advance chunk, reader.digest.update chunk⟩

/-! ### Readers that follow their source -/

section Draining

variable {ρ : Type} {read : ρ → Except Fault Bytes × ρ} {source : ρ → Source}
  {advance : ρ → Bytes → ρ}

/-- The reader answers as its source does when asked for so many bytes, and moves on with it. -/
structure Follows (read : ρ → Except Fault Bytes × ρ) (source : ρ → Source)
    (advance : ρ → Bytes → ρ) (size : Int) : Prop where
  /-- What the source gives is handed out. -/
  gives : ∀ {r chunk after}, (source r).read (some size) = (.ok chunk, after) →
    read r = (.ok chunk, advance r chunk)
  /-- A fault of the source is passed on and moves nothing. -/
  fails : ∀ {r fault after}, (source r).read (some size) = (.error fault, after) →
    read r = (.error fault, r)
  /-- Moving on takes the bytes off the source. -/
  moves : ∀ r chunk,
    source (advance r chunk) = { source r with rest := (source r).rest.drop chunk.length }
  /-- Moving on twice is moving on at once. -/
  joins : ∀ r first second, advance (advance r first) second = advance r (first ++ second)

/-- **Draining gives the bytes and the fault of the source.** Without a fault the reader has moved
on by all of them. The induction is on the fuel, of which every reading but the last uses up one
byte's worth. -/
theorem Follows.drain {size : Int} (follows : Follows read source advance size) (pos : 0 < size)
    {fuel : Nat} {r : ρ} (fits : (source r).takes (some size) = true)
    (enough : (source r).rest.length < fuel) :
    (drainWith read fuel r).1 = (source r).rest ∧
      (drainWith read fuel r).2.1 = (source r).fault ∧
      ((source r).fault = none →
        (drainWith read fuel r).2.2 = advance r (source r).rest) := by
  induction fuel generalizing r with
  | zero => omega
  | succ fuel ih =>
      rw [drainWith]
      by_cases hnil : (source r).rest = []
      · -- the last reading gives nothing, or the fault
        have hread := Source.read_of_nil hnil fits
        cases hfault : (source r).fault with
        | some fault =>
            rw [hfault] at hread
            simp [follows.fails hread, hnil]
        | none =>
            rw [hfault] at hread
            simp [follows.gives hread, hnil]
      · -- at least one byte is taken, so what is left needs less fuel
        obtain ⟨b, more, left, hrest, hread⟩ := Source.exists_read hnil fits pos
        have hmoved := follows.moves r (b :: more)
        rw [hrest, List.drop_left] at hmoved
        have hshorter : left.length < fuel := by
          rw [hrest, List.length_append, List.length_cons] at enough
          omega
        obtain ⟨hbytes, hfault, hreader⟩ := ih (r := advance r (b :: more))
          (by rw [hmoved]; exact fits) (by rw [hmoved]; exact hshorter)
        rw [hmoved] at hbytes hfault hreader
        simp only [follows.gives hread, hbytes, hfault, hrest]
        refine ⟨trivial, trivial, fun hnone => ?_⟩
        rw [hreader hnone, follows.joins]

end Draining

/-! ### Counters and hashers -/

theorem Counter.follows (size : Int) :
    Follows (fun r : Counter => r.read (some size)) Counter.source Counter.advance size where
  gives := fun {r chunk after} h => by
    have hafter : after = { r.source with rest := r.source.rest.drop chunk.length } :=
      Source.after_read h
    simp [Counter.read_eq, h, Readable.bytesOf, advance, hafter]
  fails := fun {r fault after} h => by
    have hafter : after = r.source := Source.after_fault h
    simp [Counter.read_eq, h, Readable.bytesOf, hafter]
  moves _ _ := rfl
  joins r first second := by
    simp [advance, List.drop_drop, Nat.add_assoc]

theorem Hasher.follows (size : Int) :
    Follows (fun r : Hasher => r.read (some size)) (fun r => r.counter.source) Hasher.advance
      size where
  gives := fun {r chunk after} h => by
    have hread := (Counter.follows size).gives (r := r.counter) h
    simp [Hasher.read, hread, advance]
  fails := fun {r fault after} h => by
    have hread := (Counter.follows size).fails (r := r.counter) h
    simp [Hasher.read, hread]
  moves _ _ := rfl
  joins r first second := by
    simp [advance, (Counter.follows size).joins]

/-- What draining a counter gives; without a fault it has counted every byte. -/
theorem Counter.drain_of (source : Source) {size : Int} (pos : 0 < size)
    (fits : source.takes (some size) = true) :
    ((Counter.of source).drain size).1 = source.rest ∧
      ((Counter.of source).drain size).2.1 = source.fault ∧
      (source.fault = none → ((Counter.of source).drain size).2.2.count = source.rest.length) := by
  obtain ⟨hbytes, hfault, hreader⟩ := (Counter.follows size).drain pos
    (r := Counter.of source) fits (Nat.lt_succ_self _)
  refine ⟨hbytes, hfault, fun hnone => ?_⟩
  have hend : ((Counter.of source).drain size).2.2 = (Counter.of source).advance source.rest :=
    hreader hnone
  rw [hend]
  simp [advance, of]

/-- What draining a hasher gives; without a fault it has counted every byte and its digest is that
of them all. -/
theorem Hasher.drain_of (source : Source) {size : Int} (pos : 0 < size)
    (fits : source.takes (some size) = true) :
    ((Hasher.of source).drain size).1 = source.rest ∧
      ((Hasher.of source).drain size).2.1 = source.fault ∧
      (source.fault = none →
        ((Hasher.of source).drain size).2.2.count = source.rest.length ∧
          ((Hasher.of source).drain size).2.2.hexDigest = Digest.Md5.hexDigest source.rest) := by
  obtain ⟨hbytes, hfault, hreader⟩ := (Hasher.follows size).drain pos
    (r := Hasher.of source) fits (Nat.lt_succ_self _)
  refine ⟨hbytes, hfault, fun hnone => ?_⟩
  have hend : ((Hasher.of source).drain size).2.2 = (Hasher.of source).advance source.rest :=
    hreader hnone
  constructor
  · rw [hend]
    simp [advance, of, count, Counter.advance, Counter.of]
  · rw [hend]
    simp [advance, of, hexDigest, Digest.Md5.Context.hexDigest_update]

/-! ### Bytes counted and bytes left

Pieces of any size may be asked for, also of none; then reading ends before the source does. -/

/-- What no reading changes is in the end as it was in the beginning. -/
theorem drainWith_invariant {ρ β : Type} {read : ρ → Except Fault Bytes × ρ} (view : ρ → β)
    (kept : ∀ reader, view (read reader).2 = view reader) (fuel : Nat) (reader : ρ) :
    view (drainWith read fuel reader).2.2 = view reader := by
  induction fuel generalizing reader with
  | zero => rfl
  | succ fuel ih =>
      have hread := kept reader
      rw [drainWith]
      rcases hstep : read reader with ⟨fault | _ | ⟨b, chunk⟩, after⟩
      all_goals rw [hstep] at hread
      · exact hread
      · exact hread
      · exact (ih after).trans hread

/-- A reading takes off the source what it hands out. -/
theorem Source.length_read {source after : Source} {size : Option Int} {chunk : Bytes}
    (h : source.read size = (.ok chunk, after)) :
    chunk.length + after.rest.length = source.rest.length := by
  unfold read at h
  split at h
  · split at h
    · cases h
    · obtain ⟨hchunk, rfl⟩ := Prod.mk.inj h
      obtain rfl := Except.ok.inj hchunk
      rw [← List.length_append, List.take_append_drop]
  · cases h

/-- The number of bytes that a counter has handed out, and of those that are left. -/
def Counter.total (reader : Counter) : Nat := reader.count + reader.source.rest.length

theorem Counter.total_read (reader : Counter) (size : Option Int) :
    (reader.read size).2.total = reader.total := by
  rw [read_eq, Source.readable_read]
  rcases hread : reader.source.read size with ⟨fault | chunk, after⟩
  · obtain rfl : after = reader.source := Source.after_fault hread
    rfl
  · have hlength := Source.length_read hread
    simp only [total, Readable.bytesOf]
    omega

theorem Hasher.total_read (reader : Hasher) (size : Option Int) :
    (reader.read size).2.counter.total = reader.counter.total := by
  have htotal := reader.counter.total_read (passedSize size)
  rw [read]
  rcases hread : reader.counter.read (passedSize size) with ⟨fault | chunk, after⟩ <;>
    simpa [hread] using htotal

/-- **Draining counts what it takes**, in pieces of any size. -/
theorem Counter.count_drain (source : Source) (size : Int) :
    ((Counter.of source).drain size).2.2.count +
        ((Counter.of source).drain size).2.2.source.rest.length = source.rest.length := by
  have htotal : ((Counter.of source).drain size).2.2.total = (Counter.of source).total :=
    drainWith_invariant total (fun reader => reader.total_read (some size)) _ _
  exact htotal.trans (Nat.zero_add _)

theorem Hasher.count_drain (source : Source) (size : Int) :
    ((Hasher.of source).drain size).2.2.count +
        ((Hasher.of source).drain size).2.2.counter.source.rest.length = source.rest.length := by
  have htotal : ((Hasher.of source).drain size).2.2.counter.total =
      (Hasher.of source).counter.total :=
    drainWith_invariant (fun reader : Hasher => reader.counter.total)
      (fun reader => reader.total_read (some size)) _ _
  exact htotal.trans (Nat.zero_add _)

end MediaDepot
