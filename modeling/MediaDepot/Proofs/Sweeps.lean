import MediaDepot.Proofs.Stranding
import Mathlib.Data.Rat.Floor

/-!
# MediaDepot.Proofs.Sweeps

**What one sweep takes, and what it hands over.** A sweep looks at the time in whole seconds, and
every row bears the time of its last change in whole seconds. What waits for a sweep is the backlog:
the rows of uploads that are pending or failed and were last changed before the age that the sweep
is given.

* `Record.Collectable`, `Service.backlog` — the rows that wait, in the order in which they came.
* `Service.Hands` — the locations that a sweep hands over to its handler, or to anything else that
  would delete them.
* `lt_sub_of_wholeSeconds_lt` — leaving out fractions twice never makes a row look older than it is.

`Service.sweep_collects` says that a sweep takes the first rows of the backlog and nothing else.
-/

namespace MediaDepot

/-! ### Whole seconds -/

/-- A time without its fraction. -/
def wholeSeconds (t : Rat) : Int := if 0 ≤ t then ⌊t⌋ else ⌈t⌉

theorem Site.epoch_eq (site : Site) : site.epoch = wholeSeconds site.now := by
  rw [Site.epoch, wholeSeconds]
  split
  · next h => rw [Rat.floor_def', Int.tdiv_eq_ediv_of_nonneg (Rat.num_nonneg.mpr h)]
  · next h =>
      have hneg : 0 ≤ -site.now.num := by
        have := Rat.num_nonneg.not.mpr h
        omega
      have hceil : ⌈site.now⌉ = -⌊-site.now⌋ := by rw [Int.floor_neg, neg_neg]
      rw [hceil, Rat.floor_def', Rat.neg_num, Rat.neg_den, ← Int.tdiv_eq_ediv_of_nonneg hneg,
        Int.neg_tdiv, neg_neg]

theorem lt_wholeSeconds_add_one (t : Rat) : t < wholeSeconds t + 1 := by
  rw [wholeSeconds]
  split
  · exact Int.lt_floor_add_one t
  · exact (Int.le_ceil t).trans_lt (lt_add_one _)

theorem wholeSeconds_lt_add_one (t : Rat) : (wholeSeconds t : Rat) < t + 1 := by
  rw [wholeSeconds]
  split
  · exact (Int.floor_le t).trans_lt (lt_add_one t)
  · exact Int.ceil_lt_add_one t

theorem wholeSeconds_le {t : Rat} (h : 0 ≤ t) : (wholeSeconds t : Rat) ≤ t := by
  rw [wholeSeconds, if_pos h]
  exact Int.floor_le t

theorem le_wholeSeconds {t : Rat} (h : t < 0) : t ≤ wholeSeconds t := by
  rw [wholeSeconds, if_neg h.not_ge]
  exact Int.le_ceil t

theorem wholeSeconds_nonneg {t : Rat} (h : 0 ≤ t) : 0 ≤ wholeSeconds t := by
  rw [wholeSeconds, if_pos h]
  exact Int.floor_nonneg.mpr h

theorem wholeSeconds_nonpos {t : Rat} (h : t < 0) : wholeSeconds t ≤ 0 := by
  rw [wholeSeconds, if_neg h.not_ge]
  exact Int.ceil_nonpos.mpr h.le

/-- **What is too old in whole seconds is too old**: fractions that are left out on both sides make
a time span look shorter, or else they do not matter. -/
theorem lt_sub_of_wholeSeconds_lt {t now : Rat} {age : Int} (hage : 0 ≤ age)
    (h : wholeSeconds t < wholeSeconds now - age) : (age : Rat) < now - t := by
  have hsteps : (wholeSeconds t : Rat) + 1 + age ≤ wholeSeconds now := by
    exact_mod_cast (by omega : wholeSeconds t + 1 + age ≤ wholeSeconds now)
  rcases le_or_gt 0 now with hnow | hnow
  · have := lt_wholeSeconds_add_one t
    have := wholeSeconds_le hnow
    linarith
  · -- before zero fractions are left out upwards, so the earlier time is before zero too
    have hbefore : t < 0 := by
      by_contra ht
      have := wholeSeconds_nonneg (not_lt.mp ht)
      have := wholeSeconds_nonpos hnow
      omega
    have := le_wholeSeconds hbefore
    have := wholeSeconds_lt_add_one now
    linarith

/-! ### Rows that wait -/

/-- Did the upload of the row not come to its end, and was the row last changed so many seconds
ago? -/
def Record.Collectable (row : Record) (now age : Int) : Prop :=
  (row.status = .pending ∨ row.status = .failed) ∧ row.updatedAt < now - age

instance (row : Record) (now age : Int) : Decidable (row.Collectable now age) :=
  inferInstanceAs (Decidable (_ ∧ _))

theorem Record.isStale_eq (row : Record) (now age : Int) :
    row.isStale (now - age) = decide (row.Collectable now age) := by
  have hstatus : row.status.isUnused = decide (row.status = .pending ∨ row.status = .failed) := by
    cases row.status <;> rfl
  rw [isStale, hstatus, ← Bool.decide_and]
  rfl

/-- The row is what the start or the end of an upload wrote at this time. -/
inductive Record.WrittenAt : Record → Rat → Prop
  | entered (record : Record) (depot : Depot) :
      WrittenAt ((RecordStore.enter record).run depot).1.1 depot.site.now
  | settled {record row : Record} {success : Bool} {size : Int} {depot : Depot} {memory : Memory}
      (holds : depot.records.Holds memory)
      (written : ((RecordStore.finish record success size).run depot).1 = .ok (some row)) :
      WrittenAt row depot.site.now

theorem Record.updatedAt_settled (row uploaded : Record) (now : Int) (success : Bool) (size : Int) :
    (row.settled now uploaded success size).updatedAt = now := by
  cases success <;> rfl

/-- What was written bears the time in whole seconds. -/
theorem Record.WrittenAt.updatedAt_eq {row : Record} {t : Rat} (h : row.WrittenAt t) :
    row.updatedAt = wholeSeconds t := by
  cases h with
  | entered record depot => exact depot.site.epoch_eq
  | @settled record _ success size depot memory holds written =>
      obtain ⟨after, hrun, -⟩ := RecordStore.run_finish holds record success size
      rw [hrun] at written
      have hrow := Except.ok.inj written
      rw [Memory.get?_finish, if_pos rfl] at hrow
      obtain ⟨before, -, rfl⟩ := Option.map_eq_some_iff.mp hrow
      rw [Record.updatedAt_settled, Site.epoch_eq]

namespace Service

variable {depot : Depot} {memory : Memory}

/-- The rows that wait for a sweep, in the order in which they came. -/
def backlog (depot : Depot) (age : Int) : List Record :=
  depot.records.rows.filter (·.Collectable (wholeSeconds depot.site.now) age)

theorem mem_backlog {row : Record} {age : Int} :
    row ∈ backlog depot age ↔
      row ∈ depot.records.rows ∧ row.Collectable (wholeSeconds depot.site.now) age := by
  simp [backlog]

/-- A sweep takes the first rows of the backlog. -/
theorem swept_eq_take {size : Int} (hsize : 0 ≤ size) (depot : Depot) (age : Int) :
    swept depot size age = (backlog depot age).take size.toNat := by
  -- the sweep tests a Boolean of its own, which says the same of each row
  rw [swept, firstOf, if_pos hsize, backlog, Site.epoch_eq]
  congr 1
  exact List.filter_congr fun row _ => row.isStale_eq _ _

/-! ### Handing over -/

/-- **The locations that a sweep hands over.** It is said twice: of the sweep as it is, which hands
them to the deletion of its handler, and of the sweep by anything else that deletes in its place.
The second says that they are handed over once even where a handler would make nothing of a second
time. -/
structure Hands (handler : Handler) (depot : Depot) (size age : Int) (locations : List String) :
    Prop where
  run_sweep : (sweep handler size age).run depot = handOver handler.delete depot size age locations
  run_sweepBy : ∀ delete, (sweepBy delete size age).run depot =
    handOver delete depot size age locations

theorem hands_swept (h : depot.records.Holds memory) (handler : Handler) (size age : Int) :
    Hands handler depot size age ((swept depot size age).map (·.staleLocation)) := by
  have hlocations : (memory.removeStale (depot.site.epoch - age) size).2 =
      (swept depot size age).map (·.staleLocation) := by rw [swept_eq h, Memory.removeStale]
  have hby (delete : List String → Action Unit) : (sweepBy delete size age).run depot =
      handOver delete depot size age ((swept depot size age).map (·.staleLocation)) := by
    rw [← hlocations]
    exact (run_sweepBy h delete size age).2
  exact ⟨sweepBy_delete handler size age ▸ hby handler.delete, hby⟩

/-- **The rows that stay**: those that the sweep did not take, in their order, whether or not it
fails. -/
theorem holds_sweep (h : depot.records.Holds memory) (distinct : memory.Distinct)
    (handler : Handler) (size age : Int) :
    ((sweep handler size age).run depot).2.records.Holds
      ⟨memory.rows.filter (· ∉ swept depot size age)⟩ := by
  have htaken : ∀ row ∈ swept depot size age, row ∈ memory.rows := by
    rw [swept_eq h]
    exact fun row hrow => (Memory.mem_stale hrow).1
  rw [← distinct.rows_remove htaken]
  exact (sweep_spec h handler size age).1

/-- The objects of the rows that a sweep takes, if there are any, can all be deleted. -/
def DeletionSucceeds (handler : Handler) (depot : Depot) (size age : Int) : Prop :=
  let taken := (backlog depot age).take size.toNat
  taken ≠ [] →
    ((handler.delete (taken.map (·.staleLocation))).run (cleared depot size age)).1 = .ok ⟨⟩

/-- A sweep whose deletion succeeds reports how many rows it took. -/
theorem run_sweep_of_deletion (h : depot.records.Holds memory) {handler : Handler} {size age : Int}
    (hsize : 0 ≤ size) (hdelete : DeletionSucceeds handler depot size age) :
    ((sweep handler size age).run depot).1 = .ok ((backlog depot age).take size.toNat).length := by
  have hhands := (hands_swept h handler size age).run_sweep
  rw [swept_eq_take hsize, handOver] at hhands
  rw [DeletionSucceeds] at hdelete
  generalize (backlog depot age).take size.toNat = taken at hhands hdelete
  rw [hhands]
  split
  · next hnone => rw [List.map_eq_nil_iff.mp hnone, List.length_nil]
  · next hsome =>
    have hdeleted := hdelete (mt List.map_eq_nil_iff.mpr hsome)
    rcases hrun : (handler.delete (taken.map (·.staleLocation))).run (cleared depot size age) with
      ⟨failure | done, after⟩ <;> rw [hrun] at hdeleted
    · cases hdeleted
    · rw [Action.run_bind, hrun, List.length_map]
      rfl

/-- **A sweep collects what it should**: the first rows of the backlog go and all others stay as
they are, their locations are handed over to the handler's deletion in this order, and their number
is the result. So a ready row never goes, and what goes was written longer ago than the age that the
sweep is given, by the clock with its fractions. -/
theorem sweep_collects (h : depot.records.Holds memory) (distinct : memory.Distinct)
    (handler : Handler) {size : Int} (hsize : 0 ≤ size) (age : Int)
    (hdelete : DeletionSucceeds handler depot size age) :
    let taken := (backlog depot age).take size.toNat
    let done := (sweep handler size age).run depot
    done.1 = .ok taken.length ∧ done.2.records.Holds ⟨memory.rows.filter (· ∉ taken)⟩ ∧
      sweep handler size age = sweepBy handler.delete size age ∧
      Hands handler depot size age (taken.map (·.staleLocation)) ∧
      ∀ row ∈ memory.rows, row ∉ done.2.records.rows →
        row.status ≠ .ready ∧
          (0 ≤ age → ∀ t, row.WrittenAt t → (age : Rat) < depot.site.now - t) := by
  intro taken done
  have htaken : swept depot size age = taken := swept_eq_take hsize depot age
  have hholds := holds_sweep h distinct handler size age
  have hhands := hands_swept h handler size age
  rw [htaken] at hholds hhands
  refine ⟨run_sweep_of_deletion h hsize hdelete, hholds, (sweepBy_delete handler size age).symm,
    hhands, fun row hrow hgone => ?_⟩
  -- what is no longer there was taken, and so it was in the backlog
  have hmem : row ∈ taken := by
    rw [hholds.rows_eq] at hgone
    simpa [hrow] using hgone
  obtain ⟨-, hstatus, hold⟩ := mem_backlog.mp (List.mem_of_mem_take hmem)
  refine ⟨?_, fun hage t hwritten => ?_⟩
  · rintro hready
    simp [hready] at hstatus
  · rw [hwritten.updatedAt_eq] at hold
    exact lt_sub_of_wholeSeconds_lt hage hold

/-- A row of a text that was last changed at a time. -/
def rowAt (id : String) (status : Status) (time : Int) : Record :=
  { id, mimeType := "text/plain", status, createdAt := time, updatedAt := time }

/-- Rows of all kinds. One of them is just not old enough at half a second after 5000. -/
def mixedRows : Memory := ⟨[
  rowAt "BQAAAAAAAAA" .failed 1, rowAt "BgAAAAAAAAA" .ready 1, rowAt "BwAAAAAAAAA" .pending 4900,
  rowAt "CAAAAAAAAAA" .pending 4899, rowAt "CQAAAAAAAAA" .pending 1]⟩

/-- A database with these rows. -/
def mixed : Depot :=
  ⟨.database ⟨mixedRows.rows.map Record.document⟩, { now := 10001 / 2 }⟩

/-- Two of the three rows that wait are taken. The second one was written a quarter of a second
before 4900. -/
theorem sweep_collects_of_mixed :
    mixed.records.Holds mixedRows ∧ mixedRows.Distinct ∧
      DeletionSucceeds (.bucket ⟨{}, true⟩) mixed 2 100 ∧
      let done := (sweep (.bucket ⟨{}, true⟩) 2 100).run mixed
      done.1 = .ok 2 ∧
        done.2.records.Holds ⟨[rowAt "BgAAAAAAAAA" .ready 1, rowAt "BwAAAAAAAAA" .pending 4900,
          rowAt "CQAAAAAAAAA" .pending 1]⟩ ∧
        done = handOver (Handler.bucket ⟨{}, true⟩).delete mixed 2 100
          ["auaaaaaaaaaaa", "baaaaaaaaaaaa"] ∧
        Hands (.bucket ⟨{}, true⟩) mixed 2 100 ["auaaaaaaaaaaa", "baaaaaaaaaaaa"] ∧
        (rowAt "CAAAAAAAAAA" .pending 4899).WrittenAt (19599 / 4) ∧
        (100 : Rat) < mixed.site.now - 19599 / 4 := by
  have hdistinct : mixedRows.Distinct := by
    rw [Memory.Distinct]
    decide
  have htaken : (backlog mixed 100).take (2 : Int).toNat =
      [rowAt "BQAAAAAAAAA" .failed 1, rowAt "CAAAAAAAAAA" .pending 4899] := by decide +kernel
  have hdelete : DeletionSucceeds (.bucket ⟨{}, true⟩) mixed 2 100 :=
    fun _ => ok_of_toOption (by decide +kernel)
  have hwritten : (rowAt "CAAAAAAAAAA" .pending 4899).WrittenAt (19599 / 4) := by
    let before : Depot := ⟨.memory {}, { now := 19599 / 4 }⟩
    let record : Record := { id := "CAAAAAAAAAA", mimeType := "text/plain" }
    have hentered : ((RecordStore.enter record).run before).1.1 =
        rowAt "CAAAAAAAAAA" .pending 4899 := by decide +kernel
    exact hentered ▸ .entered record before
  have hmixed : mixed.records.Holds mixedRows := rfl
  obtain ⟨hnumber, hholds, -, hhands, hgone⟩ :=
    sweep_collects hmixed hdistinct (.bucket ⟨{}, true⟩) (by decide) 100 hdelete
  rw [htaken] at hnumber hholds hhands
  refine ⟨hmixed, hdistinct, hdelete, hnumber, hholds, hhands.run_sweep, hhands, hwritten, ?_⟩
  exact (hgone _ (by decide) (by rw [hholds.rows_eq]; decide)).2 (by decide) _ hwritten

end Service

end MediaDepot
