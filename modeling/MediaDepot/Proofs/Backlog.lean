import MediaDepot.Proofs.Sweeps

/-!
# MediaDepot.Proofs.Backlog

**Sweeps drain the backlog.** As long as the clock stands still, a sweep takes the first rows of the
backlog, and what it leaves is the backlog of the next sweep. So the sweeps cut the backlog into
pieces of one size, and the last piece that is not empty may be smaller.

* `Service.afterSweeps` — the depot after so many sweeps.
* `Service.Drained.sweep` — one sweep drops as many rows from the backlog as it may take.
* `Service.drained` — what is left after so many sweeps.

`Service.sweeps_drain` says what each sweep reports and hands over, and what is left in the end.
-/

namespace MediaDepot

/-! ### The clock stands still -/

/-- Deleting does not change the clock. -/
theorem BucketHandler.now_deleteBatches (handler : BucketHandler) (batches : List (List String))
    (depot : Depot) :
    ((handler.deleteBatches batches).run depot).2.site.now = depot.site.now := by
  cases hconnected : handler.connected with
  | false => rw [handler.run_deleteBatches_of_unconnected hconnected]
  | true =>
      induction batches generalizing depot with
      | nil => rfl
      | cons batch rest ih =>
          refine Action.after_bind (fun before after => after.site.now = before.site.now)
            (fun hfirst hsecond => hsecond.trans hfirst) ?_ fun failures depot => ?_
          · obtain ⟨outcome, hrun, -⟩ := handler.run_deleteBatch hconnected batch depot
            rw [hrun, Site.run_deleteObjects]
            rfl
          · rw [Action.after_map]
            exact ih depot

theorem Handler.now_delete (handler : Handler) (locations : List String) (depot : Depot) :
    ((handler.delete locations).run depot).2.site.now = depot.site.now := by
  cases handler with
  | files handler => rw [delete, LocalHandler.delete_after]
  | bucket handler =>
      rw [delete, BucketHandler.after_delete]
      exact handler.now_deleteBatches _ depot

theorem Service.now_sweep {depot : Depot} {memory : Memory} (h : depot.records.Holds memory)
    (handler : Handler) (size age : Int) :
    ((sweep handler size age).run depot).2.site.now = depot.site.now := by
  obtain ⟨tidied, hkeeps, -, hafter⟩ := sweep_after h handler size age
  rw [hafter.now, handler.now_delete, hkeeps.noted.now]

/-! ### Pieces of a list -/

/-- Leaving out what stands first in a list without repetitions. -/
theorem filter_not_mem_take {α : Type} [DecidableEq α] {items : List α} (h : items.Nodup)
    (number : Nat) : items.filter (· ∉ items.take number) = items.drop number := by
  have hfirst : (items.take number).filter (· ∉ items.take number) = [] := by simp
  have hrest : (items.drop number).filter (· ∉ items.take number) = items.drop number := by
    have hapart : (items.take number).Disjoint (items.drop number) :=
      List.disjoint_take_drop h le_rfl
    exact List.filter_eq_self.mpr fun item hitem => by simpa using fun hmem => hapart hmem hitem
  calc items.filter (· ∉ items.take number)
      = (items.take number ++ items.drop number).filter (· ∉ items.take number) := by
        rw [List.take_append_drop]
    _ = items.drop number := by rw [List.filter_append, hfirst, hrest, List.nil_append]

/-- So many pieces of one size, one after the other, are the beginning of the list. -/
theorem flatMap_pieces {α : Type} (items : List α) (size pieces : Nat) :
    ((List.range pieces).flatMap fun k => (items.drop (k * size)).take size) =
      items.take (pieces * size) := by
  induction pieces with
  | zero => simp
  | succ pieces ih =>
      rw [List.range_succ, List.flatMap_append, ih, List.flatMap_singleton, Nat.succ_mul,
        List.take_add]

/-- The sizes of the pieces: all are full but the last one. -/
theorem length_piece {size : Nat} (hsize : 0 < size) (number k : Nat) :
    min size (number - k * size) =
      if k < number / size then size else if k = number / size then number % size else 0 := by
  have hnumber := Nat.div_add_mod' number size
  have hlast := Nat.mod_lt number hsize
  split
  · next hfull =>
      have := Nat.mul_le_mul_right size (Nat.succ_le_of_lt hfull)
      rw [Nat.succ_mul] at this
      omega
  · split
    · next hk =>
        subst hk
        omega
    · next hfull hk =>
        have := Nat.mul_le_mul_right size (show number / size + 1 ≤ k by omega)
        rw [Nat.succ_mul] at this
        omega

namespace Service

variable {depot : Depot} {memory : Memory}

/-! ### One sweep after the other -/

/-- The depot after so many sweeps while the clock stands still. -/
def afterSweeps (handler : Handler) (size age : Int) (depot : Depot) : Nat → Depot
  | 0 => depot
  | k + 1 => ((sweep handler size age).run (afterSweeps handler size age depot k)).2

theorem nodup_backlog (h : depot.records.Holds memory) (distinct : memory.Distinct) (age : Int) :
    (backlog depot age).Nodup := by
  rw [backlog, h.rows_eq]
  exact (List.Nodup.of_map _ distinct).filter _

/-- What is left when so many rows of the backlog have been taken. -/
structure Drained (before : Depot) (memory : Memory) (age : Int) (number : Nat) (after : Depot) :
    Prop where
  holds : after.records.Holds ⟨memory.rows.filter (· ∉ (backlog before age).take number)⟩
  now : after.site.now = before.site.now

namespace Drained

variable {before after : Depot} {age : Int} {number : Nat}

theorem zero (h : depot.records.Holds memory) (age : Int) : Drained depot memory age 0 depot where
  holds := by simpa using h
  now := rfl

/-- The rows that wait now are the later ones of those that waited before. -/
theorem backlog_eq (h : Drained before memory age number after)
    (hholds : before.records.Holds memory)
    (distinct : memory.Distinct) : backlog after age = (backlog before age).drop number := by
  rw [← filter_not_mem_take (nodup_backlog hholds distinct age) number, backlog,
    h.holds.rows_eq, h.now, List.filter_comm, ← hholds.rows_eq]
  rfl

/-- **One sweep** takes the next rows of the backlog, whether or not it fails. -/
theorem sweep (h : Drained before memory age number after) (hholds : before.records.Holds memory)
    (distinct : memory.Distinct) (handler : Handler) (size : Nat) :
    Drained before memory age (number + size) ((sweep handler size age).run after).2 where
  holds := by
    have hswept : swept after size age = ((backlog before age).drop number).take size := by
      rw [swept_eq_take (Int.natCast_nonneg size), Int.toNat_natCast, h.backlog_eq hholds distinct]
    have hrows : (memory.rows.filter (· ∉ (backlog before age).take number)).filter
        (· ∉ ((backlog before age).drop number).take size) =
          memory.rows.filter (· ∉ (backlog before age).take (number + size)) := by
      rw [List.filter_filter, List.take_add]
      exact List.filter_congr fun row _ => by simp [Bool.and_comm]
    -- the rows that earlier sweeps have left are distinct too
    have hleft :=
      holds_sweep h.holds (List.Nodup.sublist (List.filter_sublist.map _) distinct) handler size age
    rwa [hswept, hrows] at hleft
  now := (now_sweep h.holds handler size age).trans h.now

end Drained

/-- **After so many sweeps** as many times the rows of one sweep are gone from the backlog. -/
theorem drained (h : depot.records.Holds memory) (distinct : memory.Distinct) (handler : Handler)
    (size : Nat) (age : Int) (k : Nat) :
    Drained depot memory age (k * size) (afterSweeps handler size age depot k) := by
  induction k with
  | zero =>
      rw [Nat.zero_mul]
      exact .zero h age
  | succ k ih =>
      rw [Nat.succ_mul]
      exact ih.sweep h distinct handler size

/-- **Sweeps drain the backlog** as long as the clock stands still: all of them report the number
that they may take until the last one that finds something, which reports the rest. Every location
is handed over to the handler's deletion once, in the order in which the rows came, and what is left
in the end are the rows that never waited. -/
theorem sweeps_drain (h : depot.records.Holds memory) (distinct : memory.Distinct)
    (handler : Handler) {size : Nat} (hsize : 0 < size) (age : Int)
    (hdelete : ∀ k, k * size < (backlog depot age).length →
      DeletionSucceeds handler (afterSweeps handler size age depot k) size age) :
    let waiting := backlog depot age
    let handed (k : Nat) := ((waiting.drop (k * size)).take size).map (·.staleLocation)
    (∀ k, ((sweep handler size age).run (afterSweeps handler size age depot k)).1 =
      .ok (if k < waiting.length / size then size
        else if k = waiting.length / size then waiting.length % size else 0)) ∧
    sweep handler size age = sweepBy handler.delete size age ∧
    (∀ k, Hands handler (afterSweeps handler size age depot k) size age (handed k)) ∧
    ∀ calls, waiting.length ≤ calls * size →
      (List.range calls).flatMap handed = waiting.map (·.staleLocation) ∧
      (afterSweeps handler size age depot calls).records.Holds
        ⟨memory.rows.filter fun row => ¬ row.Collectable (wholeSeconds depot.site.now) age⟩ := by
  intro waiting handed
  have hdrained (k : Nat) := drained h distinct handler size age k
  have hpiece (k : Nat) : (backlog (afterSweeps handler size age depot k) age).take
      (size : Int).toNat = (waiting.drop (k * size)).take size := by
    rw [Int.toNat_natCast, (hdrained k).backlog_eq h distinct]
  refine ⟨fun k => ?_, (sweepBy_delete handler size age).symm, fun k => ?_,
    fun calls hcalls => ⟨?_, ?_⟩⟩
  · -- when nothing is left there is no deletion that could fail
    have hdeletes : DeletionSucceeds handler (afterSweeps handler size age depot k) size age := by
      intro hsome
      refine hdelete k ?_ hsome
      by_contra hnone
      refine hsome ((hpiece k).trans ?_)
      rw [List.drop_eq_nil_of_le (Nat.not_lt.mp hnone), List.take_nil]
    rw [run_sweep_of_deletion (hdrained k).holds (Int.natCast_nonneg size) hdeletes, hpiece,
      List.length_take, List.length_drop, length_piece hsize]
  · have hhands := hands_swept (hdrained k).holds handler size age
    rwa [swept_eq_take (Int.natCast_nonneg size), hpiece] at hhands
  · rw [← List.map_flatMap, flatMap_pieces, List.take_of_length_le hcalls]
  · have hrows : memory.rows.filter (· ∉ waiting) =
        memory.rows.filter fun row => ¬ row.Collectable (wholeSeconds depot.site.now) age :=
      List.filter_congr fun row hrow => by simp [waiting, mem_backlog, h.rows_eq, hrow]
    have hleft := (hdrained calls).holds
    rwa [List.take_of_length_le hcalls, hrows] at hleft

/-- Three rows wait, and two are taken at once. -/
theorem sweeps_drain_of_mixed :
    let handler : Handler := .bucket ⟨{}, true⟩
    let depot (k : Nat) := afterSweeps handler 2 100 mixed k
    mixed.records.Holds mixedRows ∧ mixedRows.Distinct ∧
      (∀ k, k * 2 < (backlog mixed 100).length → DeletionSucceeds handler (depot k) 2 100) ∧
      ((sweep handler 2 100).run (depot 0)).1 = .ok 2 ∧
      ((sweep handler 2 100).run (depot 1)).1 = .ok 1 ∧
      ((sweep handler 2 100).run (depot 2)).1 = .ok 0 ∧
      Hands handler (depot 0) 2 100 ["auaaaaaaaaaaa", "baaaaaaaaaaaa"] ∧
      Hands handler (depot 1) 2 100 ["beaaaaaaaaaaa"] ∧ Hands handler (depot 2) 2 100 [] ∧
      (depot 2).records.Holds ⟨[rowAt "BgAAAAAAAAA" .ready 1,
        rowAt "BwAAAAAAAAA" .pending 4900]⟩ := by
  intro handler depot
  have hmixed : mixed.records.Holds mixedRows := rfl
  have hdistinct : mixedRows.Distinct := by
    rw [Memory.Distinct]
    decide
  have hwaiting : backlog mixed 100 = [rowAt "BQAAAAAAAAA" .failed 1,
      rowAt "CAAAAAAAAAA" .pending 4899, rowAt "CQAAAAAAAAA" .pending 1] := by decide +kernel
  have hdelete (k : Nat) (hk : k * 2 < (backlog mixed 100).length) :
      DeletionSucceeds handler (depot k) 2 100 := by
    rw [hwaiting] at hk
    obtain rfl | rfl : k = 0 ∨ k = 1 := by
      simp only [List.length_cons, List.length_nil] at hk
      omega
    all_goals exact fun _ => ok_of_toOption (by decide +kernel)
  have hkept : (mixedRows.rows.filter fun row =>
      ¬ row.Collectable (wholeSeconds mixed.site.now) 100) =
      [rowAt "BgAAAAAAAAA" .ready 1, rowAt "BwAAAAAAAAA" .pending 4900] := by decide +kernel
  obtain ⟨hnumbers, -, hhands, hend⟩ :=
    sweeps_drain hmixed hdistinct handler (by decide : 0 < 2) 100 hdelete
  rw [hwaiting] at hnumbers hhands hend
  rw [hkept] at hend
  exact ⟨hmixed, hdistinct, hdelete, hnumbers 0, hnumbers 1, hnumbers 2, hhands 0, hhands 1,
    hhands 2, (hend 2 (by decide)).2⟩

end Service

end MediaDepot
