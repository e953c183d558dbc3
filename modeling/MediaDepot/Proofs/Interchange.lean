import MediaDepot.Proofs.Systems

/-!
# MediaDepot.Proofs.Interchange

**Which store keeps the records does not show.** A call of a store in memory and the same call of a
store in a database come to the same as long as the two hold the same rows, and they hold the same
rows afterwards: what a call comes to is a function of the rows and the time, `StoreCall.answer`,
and only the words of a refusal depend on the store (`StoreCall.run_act`). So two stores that begin
without rows answer alike for ever (`RecordStore.answers_same`).
-/

namespace MediaDepot

open MediaDepot.Action

/-! ### The kind of the store -/

namespace RecordStore

variable (depot : Depot)

theorem isDatabase_finish (record : Record) (success : Bool) (size : Int) :
    ((finish record success size).run depot).2.records.isDatabase = depot.records.isDatabase := by
  obtain ⟨records, site⟩ := depot
  cases records with
  | memory rows => rfl
  | database documents =>
      rw [run_finish_database, get_sparesRecords]
      rfl

theorem isDatabase_removeStale (olderThan limit : Int) :
    ((removeStale olderThan limit).run depot).2.records.isDatabase = depot.records.isDatabase := by
  obtain ⟨records, site⟩ := depot
  cases records with
  | memory rows => rfl
  | database documents =>
      have hfind := findStale_sparesRecords olderThan limit documents ⟨.database documents, site⟩
      simp only [removeStale, Action.run_bind, Action.run_get]
      rcases hrun : (findStale olderThan limit documents).run ⟨.database documents, site⟩ with
        ⟨failure | stale, ⟨records, found⟩⟩
      all_goals
        rw [hrun] at hfind
        obtain rfl : records = .database documents := hfind
      · rfl
      · by_cases hempty : stale.isEmpty = true
        · simp only [if_pos hempty]
          rfl
        · simp only [if_neg hempty, Action.run_bind, run_deleteMany]
          rfl

end RecordStore

/-! ### Calls -/

/-- A call of a record store. -/
inductive StoreCall where
  | get (id : String)
  | enter (record : Record)
  | finish (record : Record) (success : Bool) (size : Int)
  | removeStale (olderThan limit : Int)

/-- What the caller learns. -/
inductive StoreAnswer where
  | row (row : Option Record)
  /-- The record that was to be entered, as it is now, and whether its row was added. -/
  | entered (record : Record) (outcome : Except Failure Unit)
  | locations (locations : List String)
  | failed (failure : Failure)

namespace StoreAnswer

/-- The answer for an outcome; `shown` says what is learned of a success. -/
def of {α : Type} (shown : α → StoreAnswer) : Except Failure α → StoreAnswer
  | .ok a => shown a
  | .error failure => failed failure

/-- **The same answer**, but that a store in memory and one in a database refuse in their own words.
A call that fails otherwise has no answer like it. -/
inductive Same : StoreAnswer → StoreAnswer → Prop where
  | row (row : Option Record) : Same (.row row) (.row row)
  | entered (record : Record) : Same (.entered record (.ok ())) (.entered record (.ok ()))
  | refused (record : Record) :
      Same (.entered record (.error (.value (.recordExists record.id))))
        (.entered record (.error (.fault .duplicateKey)))
  | locations (locations : List String) : Same (.locations locations) (.locations locations)

end StoreAnswer

namespace StoreCall

/-- The call. -/
def act : StoreCall → StateM Depot StoreAnswer
  | get id => return .of .row (← attempt (RecordStore.get id))
  | enter record => do
    let (record, outcome) ← RecordStore.enter record
    return .entered record outcome
  | finish record success size =>
    return .of .row (← attempt (RecordStore.finish record success size))
  | removeStale olderThan limit =>
    return .of .locations (← attempt (RecordStore.removeStale olderThan limit))

/-- The answers to calls one after the other, each at a time of its own. -/
def answers : List (Rat × StoreCall) → Depot → List StoreAnswer
  | [], _ => []
  | (now, call) :: calls, depot =>
    let done := call.act.run { depot with site := { depot.site with now } }
    done.1 :: answers calls done.2

/-- What a call comes to, given the rows: the answer, and the rows afterwards. -/
def answer (refusal : String → Failure) (memory : Memory) (now : Int) :
    StoreCall → StoreAnswer × Memory
  | get id => (.row (memory.get? id), memory)
  | enter record =>
    if (memory.get? record.id).isSome then
      (.entered (record.begun now) (.error (refusal record.id)), memory)
    else (.entered (record.begun now) (.ok ()), memory.append (record.begun now))
  | finish record success size =>
    let after := (memory.finish now record success size).1
    (.row (after.get? record.id), after)
  | removeStale olderThan limit =>
    (.locations (memory.removeStale olderThan limit).2, (memory.removeStale olderThan limit).1)

variable {depot : Depot} {memory : Memory}

/-- **One call**: what it comes to is found from the rows, whichever store holds them. -/
theorem run_act (h : depot.records.Holds memory) (call : StoreCall) :
    ∃ after, call.act.run depot =
        ((call.answer depot.records.refusal memory depot.site.epoch).1, after) ∧
      after.records.Holds (call.answer depot.records.refusal memory depot.site.epoch).2 ∧
      after.records.isDatabase = depot.records.isDatabase := by
  cases call with
  | get id =>
      obtain ⟨after, hrun, hafter⟩ := RecordStore.run_get h id
      have hkind := congrArg RecordStore.isDatabase (RecordStore.get_sparesRecords id depot)
      rw [hrun] at hkind
      refine ⟨after, ?_, hafter.holds, hkind⟩
      simp only [act, StateM.run_bind, run_attempt, hrun]
      rfl
  | enter record =>
      have hkind := RecordStore.isDatabase_start depot (record.begun depot.site.epoch)
      by_cases htaken : (memory.get? record.id).isSome = true
      · obtain ⟨after, hrun, hafter⟩ :=
          RecordStore.run_start_of_taken h (record.begun depot.site.epoch) htaken
        rw [hrun] at hkind
        simp only [answer, if_pos htaken]
        refine ⟨after, ?_, hafter.holds, hkind⟩
        simp only [act, RecordStore.enter, StateM.run_bind, run_epoch, run_attempt, hrun]
        rfl
      · obtain ⟨after, hrun, hafter⟩ := RecordStore.run_start_of_fresh h
          (record.begun depot.site.epoch) (Option.not_isSome_iff_eq_none.mp htaken)
        rw [hrun] at hkind
        simp only [answer, if_neg htaken]
        refine ⟨after, ?_, hafter.holds, hkind⟩
        simp only [act, RecordStore.enter, StateM.run_bind, run_epoch, run_attempt, hrun]
        rfl
  | finish record success size =>
      obtain ⟨after, hrun, hafter⟩ := RecordStore.run_finish h record success size
      have hkind := RecordStore.isDatabase_finish depot record success size
      rw [hrun] at hkind
      refine ⟨after, ?_, hafter.holds, hkind⟩
      simp only [act, StateM.run_bind, run_attempt, hrun]
      rfl
  | removeStale olderThan limit =>
      obtain ⟨after, hrun, hafter⟩ := RecordStore.run_removeStale h olderThan limit
      have hkind := RecordStore.isDatabase_removeStale depot olderThan limit
      rw [hrun] at hkind
      refine ⟨after, ?_, hafter.holds, hkind⟩
      simp only [act, StateM.run_bind, run_attempt, hrun]
      rfl

/-! ### Two stores -/

/-- A store in memory and one in a database that hold the same rows. -/
structure Alike (first second : RecordStore) (memory : Memory) : Prop where
  holdsFirst : first.Holds memory
  holdsSecond : second.Holds memory
  inMemory : first.isDatabase = false
  inDatabase : second.isDatabase = true

/-- From the same rows, at the same time, the stores differ in their refusals alone. -/
theorem answer_same {first second : RecordStore} (h : Alike first second memory) (now : Int)
    (call : StoreCall) :
    StoreAnswer.Same (call.answer first.refusal memory now).1
        (call.answer second.refusal memory now).1 ∧
      (call.answer first.refusal memory now).2 = (call.answer second.refusal memory now).2 := by
  cases call with
  | get id => exact ⟨.row _, rfl⟩
  | finish record success size => exact ⟨.row _, rfl⟩
  | removeStale olderThan limit => exact ⟨.locations _, rfl⟩
  | enter record =>
      by_cases htaken : (memory.get? record.id).isSome = true
      · simp only [answer, if_pos htaken, and_true]
        obtain ⟨-, -, hmemory, hdatabase⟩ := h
        cases first with
        | database documents => cases hmemory
        | memory rows =>
            cases second with
            | memory rows => cases hdatabase
            | database documents => exact .refused (record.begun now)
      · simp only [answer, if_neg htaken, and_true]
        exact .entered _

/-- **Whole scripts**: stores that hold the same rows answer alike, call by call. -/
theorem answers_alike (script : List (Rat × StoreCall)) {first second : Depot}
    (h : Alike first.records second.records memory) :
    List.Forall₂ StoreAnswer.Same (answers script first) (answers script second) := by
  induction script generalizing first second memory with
  | nil => exact .nil
  | cons timed script ih =>
      obtain ⟨now, call⟩ := timed
      let early : Depot := { first with site := { first.site with now } }
      let late : Depot := { second with site := { second.site with now } }
      have hepoch : late.site.epoch = early.site.epoch := rfl
      have hfirst : early.records.Holds memory := h.holdsFirst
      have hsecond : late.records.Holds memory := h.holdsSecond
      obtain ⟨after, hrun, hholds, hkind⟩ := run_act hfirst call
      obtain ⟨after', hrun', hholds', hkind'⟩ := run_act hsecond call
      obtain ⟨hsame, hrows⟩ := answer_same h early.site.epoch call
      rw [hepoch] at hrun' hholds'
      have hnext : Alike after.records after'.records
          (call.answer early.records.refusal memory early.site.epoch).2 :=
        ⟨hholds, hrows ▸ hholds', hkind.trans h.inMemory, hkind'.trans h.inDatabase⟩
      have hanswers : List.Forall₂ StoreAnswer.Same
          ((call.act.run early).1 :: answers script (call.act.run early).2)
          ((call.act.run late).1 :: answers script (call.act.run late).2) := by
        rw [hrun, hrun']
        exact .cons hsame (ih hnext)
      exact hanswers

end StoreCall

/-- **The stores are interchangeable**: beginning without rows, a store in memory and a store in a
database give the same answer to every call of any script, at any times. -/
theorem RecordStore.answers_same (script : List (Rat × StoreCall)) (site other : Site) :
    List.Forall₂ StoreAnswer.Same (StoreCall.answers script ⟨.memory {}, site⟩)
      (StoreCall.answers script ⟨.database {}, other⟩) := by
  have halike : StoreCall.Alike (.memory {}) (.database {}) {} := ⟨rfl, rfl, rfl, rfl⟩
  exact StoreCall.answers_alike script halike

end MediaDepot
