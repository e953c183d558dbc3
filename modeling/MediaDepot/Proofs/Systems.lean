import Mathlib.Data.List.Induction
import MediaDepot.Proofs.Tasks

/-!
# MediaDepot.Proofs.Systems

**Any number of uploads and sweeps whose steps come in any order.** A `System` is a depot with the
tasks in flight; its moves are new tasks, the steps of tasks, and changes of the site from outside,
the clock among them.

Every move changes the rows in one of few ways (`System.step_rows`), and what it does to the row of
one identifier is a `Write`: the row is inserted, settled or removed. So the status of a row after a
run is found by going through the writes to its identifier (`System.status?_run`), whatever else
happened.
-/

namespace MediaDepot

open MediaDepot.Action

/-! ### Writes -/

/-- What may happen to the row of an identifier. -/
inductive Write where
  | insert
  | settle (success : Bool)
  | remove
  deriving DecidableEq, Repr

/-- The status of the row afterwards, `none` if there is no such row. A second row is refused, and
what is not there is neither settled nor removed. -/
def Write.apply (status : Option Status) : Write → Option Status
  | insert => some (status.getD .pending)
  | settle success => status.map fun _ => if success then .ready else .failed
  | remove => none

/-- **When a row that was not ready is ready in the end**: its last write but for refused ones was
the success of an upload, and the row was still there then. -/
theorem Write.foldl_apply_eq_ready_iff {status : Option Status} (h : status ≠ some .ready)
    (writes : List Write) :
    writes.foldl apply status = some .ready ↔
      ∃ earlier later, writes = earlier ++ settle true :: later ∧
        (earlier.foldl apply status).isSome ∧ ∀ write ∈ later, write = insert := by
  -- the last write decides, unless it was refused
  induction writes using List.reverseRecOn with
  | nil => simp [h]
  | append_singleton writes write ih =>
      rw [List.foldl_append, List.foldl_cons, List.foldl_nil]
      constructor
      · intro hready
        cases write with
        | insert =>
            -- refused, so the row was ready before
            have hbefore : writes.foldl apply status = some .ready := by
              cases hs : writes.foldl apply status with
              | none => simp [apply, hs] at hready
              | some old => simpa [apply, hs] using hready
            obtain ⟨earlier, later, rfl, hthere, hlater⟩ := ih.mp hbefore
            refine ⟨earlier, later ++ [insert], by simp, hthere, fun write hwrite => ?_⟩
            rcases List.mem_append.mp hwrite with hwrite | hwrite
            · exact hlater write hwrite
            · exact List.mem_singleton.mp hwrite
        | settle success =>
            obtain ⟨old, hold, hsuccess⟩ := Option.map_eq_some_iff.mp hready
            obtain rfl : success = true := by
              cases success with
              | true => rfl
              | false => cases hsuccess
            exact ⟨writes, [], rfl, by simp [hold], by simp⟩
        | remove => cases hready
      · rintro ⟨earlier, later, heq, hthere, hlater⟩
        rcases List.eq_nil_or_concat later with rfl | ⟨later, last, rfl⟩
        · obtain ⟨rfl, hlast⟩ := List.append_inj' heq rfl
          obtain rfl : write = settle true := by simpa using hlast
          obtain ⟨old, hold⟩ := Option.isSome_iff_exists.mp hthere
          simp [apply, hold]
        · obtain rfl : last = insert := hlater last (by simp)
          have hsplit : writes ++ [write] = (earlier ++ settle true :: later) ++ [insert] := by
            simpa using heq
          obtain ⟨rfl, hlast⟩ := List.append_inj' hsplit rfl
          obtain rfl : write = insert := by simpa using hlast
          have hbefore := ih.mpr ⟨earlier, later, rfl, hthere, fun w hw => hlater w (by simp [hw])⟩
          simp [apply, hbefore]

/-- **When a row is still there in the end**, none with its identifier having been inserted: it was
not removed. -/
theorem Write.isSome_foldl_apply {writes : List Write} (hinsert : insert ∉ writes) :
    ∀ {status : Option Status}, status.isSome →
      ((writes.foldl apply status).isSome ↔ remove ∉ writes) := by
  have hnone : ∀ {writes : List Write}, insert ∉ writes → writes.foldl apply none = none := by
    intro writes hinsert
    induction writes with
    | nil => rfl
    | cons write writes ih =>
        cases write with
        | insert => simp at hinsert
        | settle success => exact ih fun h => hinsert (List.mem_cons_of_mem _ h)
        | remove => exact ih fun h => hinsert (List.mem_cons_of_mem _ h)
  induction writes with
  | nil => simp
  | cons write writes ih =>
      intro status h
      have hrest : insert ∉ writes := fun h => hinsert (List.mem_cons_of_mem _ h)
      cases write with
      | insert => simp at hinsert
      | settle success =>
          rw [List.foldl_cons, ih hrest (by simpa [apply] using h)]
          simp
      | remove => simp [apply, hnone hrest]

/-! ### What a step may do to the rows -/

/-- The status of the row with an identifier, if there is one. -/
def Memory.status? (memory : Memory) (id : String) : Option Status :=
  (memory.get? id).map (·.status)

/-- **What one step may do to the rows**, and what it writes to which identifiers. -/
inductive RowStep (memory : Memory) : List (String × Write) → Memory → Prop where
  | keep : RowStep memory [] memory
  | refuse {id : String} (taken : (memory.get? id).isSome) : RowStep memory [(id, .insert)] memory
  | append {record : Record} (fresh : memory.get? record.id = none)
      (pending : record.status = .pending) :
      RowStep memory [(record.id, .insert)] (memory.append record)
  | finish (now : Int) (uploaded : Record) (success : Bool) (size : Int) :
      RowStep memory [(uploaded.id, .settle success)]
        (memory.finish now uploaded success size).1
  | remove (stale : List Record) :
      RowStep memory (stale.map fun row => (row.id, .remove)) (memory.remove (stale.map (·.id)))

/-- The writes to one identifier. -/
def writesTo (id : String) (writes : List (String × Write)) : List Write :=
  (writes.filter fun write => write.1 == id).map (·.2)

/-- Removing rows concerns the identifiers of these rows. -/
theorem foldl_writesTo_remove (id : String) (stale : List Record) (status : Option Status) :
    (writesTo id (stale.map fun row => (row.id, Write.remove))).foldl Write.apply status =
      if id ∈ stale.map (·.id) then none else status := by
  induction stale generalizing status with
  | nil => rfl
  | cons row stale ih =>
      by_cases hid : row.id = id
      · have hremove := ih none
        simp only [writesTo, List.map_cons, hid, List.filter_cons_of_pos, beq_self_eq_true,
          List.foldl_cons, Write.apply, List.mem_cons, true_or, if_true] at hremove ⊢
        rw [hremove, ite_self]
      · have hskip := ih status
        simp only [writesTo, List.map_cons, List.mem_cons, Ne.symm hid, false_or] at hskip ⊢
        rw [List.filter_cons_of_neg (by simpa using hid), hskip]

namespace RowStep

variable {memory after : Memory} {writes : List (String × Write)}

theorem distinct (h : RowStep memory writes after) (hdistinct : memory.Distinct) :
    after.Distinct := by
  cases h with
  | keep => exact hdistinct
  | refuse taken => exact hdistinct
  | append fresh pending => exact hdistinct.append fresh
  | finish now uploaded success size => exact hdistinct.finish now uploaded success size
  | remove stale => exact hdistinct.remove _

/-- The status of a row after a step is found from the writes to its identifier. -/
theorem status?_eq (h : RowStep memory writes after) (id : String) :
    after.status? id = (writesTo id writes).foldl Write.apply (memory.status? id) := by
  cases h with
  | keep => rfl
  | @refuse other taken =>
      obtain ⟨row, hrow⟩ := Option.isSome_iff_exists.mp taken
      by_cases hid : other = id
      · subst hid
        simp [writesTo, Write.apply, Memory.status?, hrow]
      · simp [writesTo, hid]
  | @append record fresh pending =>
      by_cases hid : record.id = id
      · subst hid
        simp [writesTo, Write.apply, Memory.status?, Memory.get?_append, fresh, pending]
      · simp [writesTo, hid, Memory.status?, Memory.get?_append]
  | finish now uploaded success size =>
      by_cases hid : uploaded.id = id
      · subst hid
        simp only [writesTo, Memory.status?, Memory.get?_finish]
        cases memory.get? uploaded.id <;> cases success <;> simp [Write.apply, Record.settled,
          Record.finished, Record.abandoned]
      · simp [writesTo, hid, Memory.status?, Memory.get?_finish, Ne.symm hid]
  | remove stale =>
      rw [foldl_writesTo_remove, Memory.status?, Memory.get?_remove]
      split <;> rfl

end RowStep

/-! ### The steps of tasks -/

theorem RecordStore.note_sparesRecords (call : Call) : (note call).SparesRecords := fun _ => rfl

theorem RecordStore.get_sparesRecords (id : String) : (get id).SparesRecords := by
  rintro ⟨records, site⟩
  cases records with
  | memory rows => rfl
  | database documents =>
      exact SparesRecords.bind (note_sparesRecords (.findOne id)) (fun _ => .ofFault _)
        ⟨.database documents, site⟩

theorem RecordStore.findStale_sparesRecords (olderThan limit : Int) (documents : Collection) :
    (findStale olderThan limit documents).SparesRecords :=
  .bind (note_sparesRecords _) fun _ => .bind (note_sparesRecords _) fun _ => .ofFault _

namespace UploadTask

/-- The identifier of the row, as long as the upload is not over. -/
def id? : UploadTask → Option String
  | entered record _ => some record.id
  | moved transfer => some transfer.record.id
  | updated transfer => some transfer.record.id
  | ended _ => none

/-- What the next step writes. -/
def writes : UploadTask → List (String × Write)
  | moved transfer => [(transfer.record.id, .settle transfer.succeeded)]
  | _ => []

variable {depot : Depot} {memory : Memory}

theorem start_rows (h : depot.records.Holds memory) (uid : Uid) (source : Source)
    (mimeType user : Option String) :
    let done := (start uid source mimeType user).run depot
    done.1.id? = some uid.text ∧
      ∃ memory', done.2.records.Holds memory' ∧ RowStep memory [(uid.text, .insert)] memory' := by
  simp only [start, StateM.run_bind]
  cases hrow : memory.get? uid.text with
  | none =>
      obtain ⟨after, hrun, hafter⟩ := Handler.run_register_of_fresh h
        (Service.newRecord uid mimeType user) hrow
      have hfresh : memory.get? (Service.entered uid mimeType user depot.site.epoch).id = none :=
        hrow
      rw [hrun]
      exact ⟨rfl, _, hafter.holds, .append hfresh rfl⟩
  | some row =>
      have htaken : (memory.get? uid.text).isSome := by simp [hrow]
      obtain ⟨failure, after, hrun, hafter⟩ := Handler.run_register_of_taken h
        (Service.newRecord uid mimeType user) htaken
      rw [hrun]
      exact ⟨rfl, _, hafter.holds, .refuse htaken⟩

theorem next_rows (h : depot.records.Holds memory) (handler : Handler) (task : UploadTask) :
    ∃ memory', ((next handler task).run depot).2.records.Holds memory' ∧
      RowStep memory task.writes memory' := by
  cases task with
  | entered record source => exact ⟨memory, h, .keep⟩
  | moved transfer =>
      obtain ⟨records, site⟩ := depot
      cases records with
      | memory held =>
          obtain ⟨after, hrun, hafter⟩ := Service.run_settle h transfer
          refine ⟨_, ?_, .finish site.epoch transfer.record transfer.succeeded transfer.size⟩
          show ((Service.settle transfer).run ⟨.memory held, site⟩).2.records.Holds _
          rw [hrun]
          exact hafter.holds
      | database documents =>
          exact ⟨_, Collection.update_eq h transfer.record site.epoch transfer.succeeded
            transfer.size, .finish site.epoch transfer.record transfer.succeeded transfer.size⟩
  | updated transfer =>
      obtain ⟨after, hrun, hafter⟩ := RecordStore.run_get h transfer.record.id
      refine ⟨memory, ?_, .keep⟩
      show ((RecordStore.get transfer.record.id).run depot).2.records.Holds memory
      rw [hrun]
      exact hafter.holds
  | ended outcome => exact ⟨memory, h, .keep⟩

end UploadTask

namespace SweepTask

/-- What the first step writes: it removes rows in memory, and only finds documents. -/
def startWrites (depot : Depot) (size age : Int) : List (String × Write) :=
  match depot.records with
  | .memory held =>
    (held.stale (depot.site.epoch - age) size).map fun row => (row.id, .remove)
  | .database _ => []

/-- What the next step writes: it removes the documents that were found. -/
def writes (depot : Depot) : SweepTask → List (String × Write)
  | found stale =>
    match depot.records with
    | .memory _ => []
    | .database _ => stale.map fun row => (row.id, .remove)
  | _ => []

variable {depot : Depot} {memory : Memory}

theorem tidy_sparesRecords (handler : Handler) (locations : List String) :
    (tidy handler locations).SparesRecords := by
  unfold tidy
  split
  · exact .pure 0
  · exact .bind (handler.delete_sparesRecords locations) fun _ =>
      .bind (fun _ => rfl) fun _ => .pure _

theorem start_rows (h : depot.records.Holds memory) (size age : Int) :
    ∃ memory', ((start size age).run depot).2.records.Holds memory' ∧
      RowStep memory (startWrites depot size age) memory' := by
  obtain ⟨records, site⟩ := depot
  cases records with
  | memory held =>
      obtain rfl : held = memory := h
      exact ⟨_, rfl, .remove (held.stale (site.epoch - age) size)⟩
  | database documents =>
      obtain ⟨found, hrun, -⟩ := RecordStore.run_findStale h (site.epoch - age) size
        ⟨.database documents, site⟩
      refine ⟨memory, ?_, .keep⟩
      rw [run_start_database, hrun]
      exact h

theorem next_rows (h : depot.records.Holds memory) (handler : Handler) (task : SweepTask) :
    ∃ memory', ((next handler task).run depot).2.records.Holds memory' ∧
      RowStep memory (task.writes depot) memory' := by
  cases task with
  | found stale =>
      obtain ⟨records, site⟩ := depot
      by_cases hempty : stale.isEmpty = true
      · -- nothing is deleted, and no rows are removed
        obtain rfl := List.isEmpty_iff.mp hempty
        cases records with
        | memory held => exact ⟨memory, h, .keep⟩
        | database documents => exact ⟨memory, h, .keep⟩
      · rw [next, if_neg hempty]
        cases records with
        | memory held => exact ⟨memory, h, .keep⟩
        | database documents =>
            refine ⟨_, ?_, .remove stale⟩
            rw [StateM.run_bind, run_attempt, RecordStore.run_deleteMany]
            exact Collection.delete_eq h (stale.map (·.id))
  | removed locations =>
      refine ⟨memory, ?_, .keep⟩
      show ((tidy handler locations).run depot).2.records.Holds memory
      rw [tidy_sparesRecords handler locations depot]
      exact h
  | ended outcome => exact ⟨memory, h, .keep⟩

end SweepTask

/-! ### The kind of the store -/

/-- Are the records kept in a database? -/
def RecordStore.isDatabase : RecordStore → Bool
  | .memory _ => false
  | .database _ => true

section Kind

variable (handler : Handler) (depot : Depot)

@[simp] theorem RecordStore.isDatabase_append (records : RecordStore) (record : Record) :
    (records.append record).isDatabase = records.isDatabase := by
  cases records <;> rfl

theorem RecordStore.isDatabase_start (record : Record) :
    ((start record).run depot).2.records.isDatabase = depot.records.isDatabase := by
  rw [run_start_eq]
  cases depot.records.isTaken record.id <;> simp

theorem Handler.isDatabase_register (record : Record) :
    ((register record).run depot).2.records.isDatabase = depot.records.isDatabase := by
  obtain ⟨log, hrun⟩ := run_register_eq record depot
  rw [hrun]
  cases depot.records.isTaken record.id <;> simp

theorem UploadTask.isDatabase_start (uid : Uid) (source : Source) (mimeType user : Option String) :
    ((start uid source mimeType user).run depot).2.records.isDatabase =
      depot.records.isDatabase := by
  have hregister := Handler.isDatabase_register depot (Service.newRecord uid mimeType user)
  simp only [start, StateM.run_bind]
  rcases hrun : (Handler.register (Service.newRecord uid mimeType user)).run depot with
    ⟨⟨record, failure | done⟩, after⟩
  all_goals
    rw [hrun] at hregister
    exact hregister

theorem UploadTask.isDatabase_next (task : UploadTask) :
    ((next handler task).run depot).2.records.isDatabase = depot.records.isDatabase := by
  cases task with
  | entered record source => rfl
  | moved transfer =>
      obtain ⟨records, site⟩ := depot
      cases records with
      | memory rows => obtain ⟨record, failure | uploaded⟩ := transfer <;> rfl
      | database documents => rfl
  | updated transfer =>
      exact congrArg RecordStore.isDatabase (RecordStore.get_sparesRecords transfer.record.id depot)
  | ended outcome => rfl

theorem SweepTask.isDatabase_start (size age : Int) :
    ((start size age).run depot).2.records.isDatabase = depot.records.isDatabase := by
  obtain ⟨records, site⟩ := depot
  cases records with
  | memory rows => rfl
  | database documents =>
      have hfind := RecordStore.findStale_sparesRecords (site.epoch - age) size documents
        ⟨.database documents, site⟩
      rw [run_start_database]
      rcases hrun : (RecordStore.findStale (site.epoch - age) size documents).run
        ⟨.database documents, site⟩ with ⟨failure | stale, after⟩
      all_goals
        rw [hrun] at hfind
        exact congrArg RecordStore.isDatabase hfind

theorem SweepTask.isDatabase_next (task : SweepTask) :
    ((next handler task).run depot).2.records.isDatabase = depot.records.isDatabase := by
  cases task with
  | found stale =>
      obtain ⟨records, site⟩ := depot
      by_cases hempty : stale.isEmpty = true
      · rw [next, if_pos hempty]
        rfl
      · rw [next, if_neg hempty]
        cases records <;> rfl
  | removed locations =>
      exact congrArg RecordStore.isDatabase (tidy_sparesRecords handler locations depot)
  | ended outcome => rfl

end Kind

/-! ### Systems -/

/-- A depot with the tasks in flight. -/
structure System where
  depot : Depot
  uploads : List UploadTask := []
  sweeps : List SweepTask := []

/-- A depot without any task. -/
def System.idle (records : RecordStore) (site : Site) : System := ⟨⟨records, site⟩, [], []⟩

/-- What may happen next. Tasks are named by their places. -/
inductive Move where
  /-- The site changes: the clock, the objects and whatever else is outside. -/
  | elsewhere (change : Site → Site)
  /-- An upload takes its first step, and this identifier is drawn for it. -/
  | upload (uid : Uid) (source : Source) (mimeType user : Option String)
  /-- An upload takes its next step. -/
  | uploadOn (place : Nat)
  /-- A sweep takes its first step. -/
  | sweep (size age : Int)
  /-- A sweep takes its next step. -/
  | sweepOn (place : Nat)

/-- The identifiers that are drawn in a run. -/
def Move.drawn (moves : List Move) : List Uid :=
  moves.filterMap fun
    | upload uid _ _ _ => some uid
    | _ => none

theorem Move.drawn_append (first second : List Move) :
    drawn (first ++ second) = drawn first ++ drawn second := List.filterMap_append

theorem Move.drawn_cons (move : Move) (moves : List Move) :
    drawn (move :: moves) = drawn [move] ++ drawn moves := drawn_append [move] moves

namespace System

variable (handler : Handler)

/-- The system after a move. -/
def step (s : System) : Move → System
  | .elsewhere change => { s with depot := { s.depot with site := change s.depot.site } }
  | .upload uid source mimeType user =>
    let done := (UploadTask.start uid source mimeType user).run s.depot
    { s with depot := done.2, uploads := s.uploads ++ [done.1] }
  | .uploadOn place =>
    match s.uploads[place]? with
    | none => s
    | some task =>
      let done := (task.next handler).run s.depot
      { s with depot := done.2, uploads := s.uploads.set place done.1 }
  | .sweep size age =>
    let done := (SweepTask.start size age).run s.depot
    { s with depot := done.2, sweeps := s.sweeps ++ [done.1] }
  | .sweepOn place =>
    match s.sweeps[place]? with
    | none => s
    | some task =>
      let done := (task.next handler).run s.depot
      { s with depot := done.2, sweeps := s.sweeps.set place done.1 }

/-- The system after a run. -/
def run (moves : List Move) (s : System) : System := moves.foldl (step handler) s

/-- What a move writes to which identifiers. -/
def writes (s : System) : Move → List (String × Write)
  | .elsewhere _ => []
  | .upload uid _ _ _ => [(uid.text, .insert)]
  | .uploadOn place => (s.uploads[place]?.map UploadTask.writes).getD []
  | .sweep size age => SweepTask.startWrites s.depot size age
  | .sweepOn place => (s.sweeps[place]?.map (SweepTask.writes s.depot)).getD []

/-- What a run writes to one identifier. -/
def history (id : String) : List Move → System → List Write
  | [], _ => []
  | move :: moves, s => writesTo id (s.writes move) ++ history id moves (s.step handler move)

/-- The status of the row with an identifier, if there is one. -/
def status? (s : System) (id : String) : Option Status :=
  (s.depot.records.row? id).map (·.status)

variable {s : System} {memory : Memory}

theorem status?_eq (h : s.depot.records.Holds memory) (id : String) :
    s.status? id = memory.status? id := by
  rw [status?, h.row?_eq, Memory.status?]

/-- **A move changes the rows by the step of one task**, if at all. -/
theorem step_rows (h : s.depot.records.Holds memory) (move : Move) :
    ∃ memory', (s.step handler move).depot.records.Holds memory' ∧
      RowStep memory (s.writes move) memory' := by
  cases move with
  | elsewhere change => exact ⟨memory, h, .keep⟩
  | upload uid source mimeType user =>
      exact (UploadTask.start_rows h uid source mimeType user).2
  | uploadOn place =>
      simp only [step, writes]
      cases s.uploads[place]? with
      | none => exact ⟨memory, h, .keep⟩
      | some task => exact task.next_rows h handler
  | sweep size age => exact SweepTask.start_rows h size age
  | sweepOn place =>
      simp only [step, writes]
      cases s.sweeps[place]? with
      | none => exact ⟨memory, h, .keep⟩
      | some task => exact task.next_rows h handler

/-- The rows of a system are kept by some store, and no two have the same identifier. -/
def Sound (s : System) : Prop := ∃ memory, s.depot.records.Holds memory ∧ memory.Distinct

theorem Sound.idle {records : RecordStore} (h : records.Holds {}) (site : Site) :
    (System.idle records site).Sound := ⟨{}, h, List.nodup_nil⟩

theorem Sound.step (h : s.Sound) (move : Move) : (s.step handler move).Sound := by
  obtain ⟨memory, hholds, hdistinct⟩ := h
  obtain ⟨memory', hholds', hstep⟩ := step_rows handler hholds move
  exact ⟨memory', hholds', hstep.distinct hdistinct⟩

theorem Sound.run (h : s.Sound) (moves : List Move) : (s.run handler moves).Sound := by
  induction moves generalizing s with
  | nil => exact h
  | cons move moves ih => exact ih (h.step handler move)

/-- **The status of a row after a run** is found by going through what was written to its
identifier. -/
theorem status?_run (h : s.Sound) (moves : List Move) (id : String) :
    (s.run handler moves).status? id =
      (history handler id moves s).foldl Write.apply (s.status? id) := by
  induction moves generalizing s with
  | nil => rfl
  | cons move moves ih =>
      have hnext := h.step handler move
      obtain ⟨memory, hholds, -⟩ := h
      obtain ⟨memory', hholds', hstep⟩ := step_rows handler hholds move
      have hmove : (s.step handler move).status? id =
          (writesTo id (s.writes move)).foldl Write.apply (s.status? id) := by
        rw [status?_eq hholds', status?_eq hholds, hstep.status?_eq]
      show ((s.step handler move).run handler moves).status? id = _
      rw [ih hnext, hmove, history, List.foldl_append]

/-- A move writes an identifier's status from what it was. -/
theorem status?_step (h : s.Sound) (move : Move) (id : String) :
    (s.step handler move).status? id =
      (writesTo id (s.writes move)).foldl Write.apply (s.status? id) := by
  have hrun := status?_run handler h [move] id
  rwa [history, history, List.append_nil] at hrun

/-! ### What a run keeps -/

theorem isDatabase_step (s : System) (move : Move) :
    (s.step handler move).depot.records.isDatabase = s.depot.records.isDatabase := by
  cases move with
  | elsewhere change => rfl
  | upload uid source mimeType user =>
      exact UploadTask.isDatabase_start s.depot uid source mimeType user
  | uploadOn place =>
      simp only [step]
      cases s.uploads[place]? with
      | none => rfl
      | some task => exact task.isDatabase_next handler s.depot
  | sweep size age => exact SweepTask.isDatabase_start s.depot size age
  | sweepOn place =>
      simp only [step]
      cases s.sweeps[place]? with
      | none => rfl
      | some task => exact task.isDatabase_next handler s.depot

theorem isDatabase_run (moves : List Move) (s : System) :
    (s.run handler moves).depot.records.isDatabase = s.depot.records.isDatabase := by
  induction moves generalizing s with
  | nil => rfl
  | cons move moves ih => exact (ih (s.step handler move)).trans (isDatabase_step handler s move)

/-- When one task of a list takes its next step, each of them has or stays as it was. -/
theorem getElem?_set_next {τ : Type} {tasks : List τ} {place other : Nat} {task current : τ}
    (h : tasks[place]? = some task) (hcurrent : tasks[other]? = some current) (next : τ → τ) :
    (tasks.set other (next current))[place]? = some task ∨
      (tasks.set other (next current))[place]? = some (next task) := by
  by_cases hplace : other = place
  · subst hplace
    obtain rfl : task = current := Option.some.inj (h.symm.trans hcurrent)
    obtain ⟨hlt, -⟩ := List.getElem?_eq_some_iff.mp h
    exact Or.inr (List.getElem?_set_self hlt)
  · exact Or.inl ((List.getElem?_set_ne hplace).trans h)

/-- An upload stays as it is or takes its next step. -/
theorem uploads_step {place : Nat} {task : UploadTask} (h : s.uploads[place]? = some task)
    (move : Move) :
    (s.step handler move).uploads[place]? = some task ∨
      (s.step handler move).uploads[place]? = some ((task.next handler).run s.depot).1 := by
  obtain ⟨hlt, -⟩ := List.getElem?_eq_some_iff.mp h
  cases move with
  | elsewhere change => exact Or.inl h
  | upload uid source mimeType user => exact Or.inl ((List.getElem?_append_left hlt).trans h)
  | uploadOn other =>
      simp only [step]
      cases hcurrent : s.uploads[other]? with
      | none => exact Or.inl h
      | some current =>
          exact getElem?_set_next h hcurrent fun task => ((task.next handler).run s.depot).1
  | sweep size age => exact Or.inl h
  | sweepOn other =>
      simp only [step]
      cases s.sweeps[other]? <;> exact Or.inl h

/-- A sweep stays as it is or takes its next step. -/
theorem sweeps_step {place : Nat} {task : SweepTask} (h : s.sweeps[place]? = some task)
    (move : Move) :
    (s.step handler move).sweeps[place]? = some task ∨
      (s.step handler move).sweeps[place]? = some ((task.next handler).run s.depot).1 := by
  obtain ⟨hlt, -⟩ := List.getElem?_eq_some_iff.mp h
  cases move with
  | elsewhere change => exact Or.inl h
  | sweep size age => exact Or.inl ((List.getElem?_append_left hlt).trans h)
  | sweepOn other =>
      simp only [step]
      cases hcurrent : s.sweeps[other]? with
      | none => exact Or.inl h
      | some current =>
          exact getElem?_set_next h hcurrent fun task => ((task.next handler).run s.depot).1
  | upload uid source mimeType user => exact Or.inl h
  | uploadOn other =>
      simp only [step]
      cases s.uploads[other]? <;> exact Or.inl h

/-- What is written to an identifier is written by one of the moves. -/
theorem mem_history_iff {write : Write} {id : String} {moves : List Move} :
    write ∈ history handler id moves s ↔
      ∃ earlier move later, moves = earlier ++ move :: later ∧
        (id, write) ∈ (s.run handler earlier).writes move := by
  have hhere (s : System) (move : Move) :
      write ∈ writesTo id (s.writes move) ↔ (id, write) ∈ s.writes move := by
    simp [writesTo]
  induction moves generalizing s with
  | nil => simp [history]
  | cons move moves ih =>
      have hrest : write ∈ history handler id moves (s.step handler move) ↔ _ := ih
      rw [history, List.mem_append, hhere, hrest]
      constructor
      · rintro (hmem | ⟨earlier, other, later, rfl, hmem⟩)
        · exact ⟨[], move, moves, rfl, hmem⟩
        · exact ⟨move :: earlier, other, later, rfl, hmem⟩
      · rintro ⟨earlier, other, later, heq, hmem⟩
        cases earlier with
        | nil =>
            obtain ⟨rfl, rfl⟩ := List.cons.inj heq
            exact Or.inl hmem
        | cons first earlier =>
            obtain ⟨rfl, rfl⟩ := List.cons.inj heq
            exact Or.inr ⟨earlier, other, later, rfl, hmem⟩

end System

end MediaDepot
