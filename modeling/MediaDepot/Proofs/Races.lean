import MediaDepot.Proofs.Systems

/-!
# MediaDepot.Proofs.Races

**What a sweep may do to an upload that comes to its end at the wrong moment.** A sweep decides by
what it finds; an upload may be settled after that. There are two places where this shows:

* In a database, stale documents are found in one step and deleted by their keys in the next. A
  ready row is deleted just when the upload of a row that was found succeeds in between
  (`System.deletes_ready_iff`).
* In memory a sweep takes a row in one step, but the upload of the row may still be going on. It
  then settles nothing and reports its success all the same. What is reported is stored just when no
  sweep took the row between the beginning and the end of the upload (`System.reported_stored_iff`).

Both things happen: `System.deletes_ready_row` and `System.reports_lost_upload`.
-/

namespace MediaDepot

/-! ### Rows deleted from a database -/

/-- The rows that a sweep has found and not yet deleted. -/
def SweepTask.stale? : SweepTask → Option (List Record)
  | found stale => some stale
  | _ => none

namespace System

variable (handler : Handler)

/-- The rows that the sweep at a place has found and not yet deleted. -/
def stale? (s : System) (place : Nat) : Option (List Record) :=
  s.sweeps[place]?.bind SweepTask.stale?

variable {s : System} {place : Nat} {stale : List Record}

theorem sweeps_of_stale? (h : s.stale? place = some stale) :
    s.sweeps[place]? = some (.found stale) := by
  obtain ⟨task, htask, hstale⟩ := Option.bind_eq_some_iff.mp h
  cases task with
  | found rows => rw [htask, show rows = stale from Option.some.inj hstale]
  | removed locations => cases hstale
  | ended outcome => cases hstale

/-- No step of a sweep but the first finds rows. -/
theorem stale?_next (task : SweepTask) (depot : Depot) :
    ((task.next handler).run depot).1.stale? = none := by
  cases task with
  | found stale =>
      obtain ⟨records, site⟩ := depot
      by_cases hempty : stale.isEmpty = true
      · rw [SweepTask.next, if_pos hempty]
        rfl
      · rw [SweepTask.next, if_neg hempty]
        cases records <;> rfl
  | removed locations => rfl
  | ended outcome => rfl

/-- What a sweep has found and not yet deleted is what it found in its first step. -/
theorem found_of_run {task : SweepTask} (moves : List Move) (h : s.sweeps[place]? = some task)
    (hlate : (s.run handler moves).stale? place = some stale) : task = .found stale := by
  induction moves generalizing s task with
  | nil => exact Option.some.inj (h.symm.trans (sweeps_of_stale? hlate))
  | cons move moves ih =>
      rcases sweeps_step handler h move with hsame | hnext
      · exact ih hsame hlate
      · have hfound := stale?_next handler task s.depot
        rw [ih hnext hlate] at hfound
        cases hfound

/-- A row that a sweep finds in a database is not ready. -/
theorem status?_ne_ready_of_found (h : s.Sound) (hdatabase : s.depot.records.isDatabase = true)
    {size age : Int} (hfound : ((SweepTask.start size age).run s.depot).1 = .found stale)
    {id : String}
    (hid : id ∈ stale.map (·.id)) : s.status? id ≠ some .ready := by
  obtain ⟨memory, hholds, hdistinct⟩ := h
  obtain ⟨⟨records, site⟩, uploads, sweeps⟩ := s
  cases records with
  | memory rows => cases hdatabase
  | database documents =>
      obtain ⟨after, hrun, -⟩ := RecordStore.run_findStale hholds (site.epoch - age) size
        ⟨.database documents, site⟩
      rw [SweepTask.run_start_database, hrun] at hfound
      obtain rfl := SweepTask.found.inj hfound
      obtain ⟨row, hrow, rfl⟩ := List.mem_map.mp hid
      rw [status?_eq hholds, Memory.status?, hdistinct.get?_of_mem (Memory.mem_stale hrow).1]
      exact fun hready => Memory.status_of_mem_stale hrow (Option.some.inj hready)

/-- The first step of a sweep in a database leaves the rows as they are. -/
theorem status?_find (h : s.Sound) (hdatabase : s.depot.records.isDatabase = true) (size age : Int)
    (id : String) : (s.step handler (.sweep size age)).status? id = s.status? id := by
  have hwrites : s.writes (.sweep size age) = [] := by
    cases hrecords : s.depot.records with
    | memory rows => simp [hrecords, RecordStore.isDatabase] at hdatabase
    | database documents => simp [writes, SweepTask.startWrites, hrecords]
  rw [status?_step handler h, hwrites]
  rfl

/-- The second step of a sweep in a database takes the rows that were found, whatever has become of
them. -/
theorem status?_delete (h : s.Sound) (hdatabase : s.depot.records.isDatabase = true)
    (hstale : s.stale? place = some stale) (id : String) :
    (s.step handler (.sweepOn place)).status? id =
      if id ∈ stale.map (·.id) then none else s.status? id := by
  have hwrites : s.writes (.sweepOn place) = stale.map fun row => (row.id, Write.remove) := by
    rw [writes, sweeps_of_stale? hstale]
    cases hrecords : s.depot.records with
    | memory rows => simp [hrecords, RecordStore.isDatabase] at hdatabase
    | database documents => simp [SweepTask.writes, hrecords]
  rw [status?_step handler h, hwrites, foldl_writesTo_remove]

/-- **When a sweep deletes a ready row from a database**: when it has found the row, which was not
ready then, and the last thing to be written to the row since was the success of its upload. Between
the two steps of the sweep anything may happen. The steps are those of the service. -/
theorem deletes_ready_iff (site : Site) (before between : List Move) (size age : Int)
    (id : String) :
    let start := run handler before (idle (.database {}) site)
    let found := start.step handler (.sweep size age)
    let late := run handler between found
    Service.InSteps handler ∧
      (late.stale? start.sweeps.length = some stale →
        ((late.status? id = some .ready ∧
            (late.step handler (.sweepOn start.sweeps.length)).status? id = none) ↔
          id ∈ stale.map (·.id) ∧ ∃ earlier later,
            history handler id between found = earlier ++ .settle true :: later ∧
              (earlier.foldl Write.apply (found.status? id)).isSome ∧
              ∀ write ∈ later, write = .insert)) := by
  intro start found late
  refine ⟨Service.inSteps handler, fun hstale => ?_⟩
  have hempty : (RecordStore.database {}).Holds {} := rfl
  have hstart : start.Sound := (Sound.idle hempty site).run handler before
  have hfound : found.Sound := hstart.step handler _
  have hlate : late.Sound := hfound.run handler between
  have hkind : start.depot.records.isDatabase = true := isDatabase_run handler before _
  have hkindLate : late.depot.records.isDatabase = true :=
    (isDatabase_run handler between _).trans ((isDatabase_step handler _ _).trans hkind)
  -- what is deleted now is what was found at first
  have htask : ((SweepTask.start size age).run start.depot).1 = .found stale :=
    found_of_run handler between List.getElem?_concat_length hstale
  have hbefore (hid : id ∈ stale.map (·.id)) : found.status? id ≠ some .ready := by
    rw [status?_find handler hstart hkind]
    exact status?_ne_ready_of_found hstart hkind htask hid
  rw [status?_delete handler hlate hkindLate hstale, status?_run handler hfound]
  constructor
  · rintro ⟨hready, hgone⟩
    have hid : id ∈ stale.map (·.id) := by
      by_contra hid
      rw [if_neg hid, hready] at hgone
      cases hgone
    exact ⟨hid, (Write.foldl_apply_eq_ready_iff (hbefore hid) _).mp hready⟩
  · rintro ⟨hid, hhistory⟩
    exact ⟨(Write.foldl_apply_eq_ready_iff (hbefore hid) _).mpr hhistory, if_pos hid⟩

/-- The content of the first upload comes in, which takes a long time. -/
def slowTransfer : List Move := [.uploadOn 0, .elsewhere fun site => { site with now := 5000 }]

/-- An upload whose row is still to be settled a long time after it began. -/
def slowUpload : List Move :=
  .upload ⟨5⟩ (.ofBytes [97, 98, 99]) (some "text/plain") none :: slowTransfer

/-- A sweep finds the row of a slow upload, which succeeds before the sweep goes on. -/
theorem deletes_ready_iff_of_slow_upload :
    let start := run (.files {}) slowUpload (idle (.database {}) {})
    let found := start.step (.files {}) (.sweep 10 60)
    let late := run (.files {}) [.uploadOn 0] found
    ∃ stale, late.stale? start.sweeps.length = some stale ∧ Service.InSteps (.files {}) ∧
      ((late.status? "BQAAAAAAAAA" = some .ready ∧
          (late.step (.files {}) (.sweepOn start.sweeps.length)).status? "BQAAAAAAAAA" = none) ↔
        "BQAAAAAAAAA" ∈ stale.map (·.id) ∧ ∃ earlier later,
          history (.files {}) "BQAAAAAAAAA" [.uploadOn 0] found = earlier ++ .settle true :: later ∧
            (earlier.foldl Write.apply (found.status? "BQAAAAAAAAA")).isSome ∧
            ∀ write ∈ later, write = .insert) := by
  intro start found late
  have hfound : (late.stale? start.sweeps.length).isSome := by decide +kernel
  obtain ⟨stale, hstale⟩ := Option.isSome_iff_exists.mp hfound
  obtain ⟨hsteps, hdeletes⟩ :=
    deletes_ready_iff (.files {}) {} slowUpload [.uploadOn 0] 10 60 "BQAAAAAAAAA"
  exact ⟨stale, hstale, hsteps, hdeletes hstale⟩

/-- An upload is settled between the two steps of a sweep, and its ready row is deleted. -/
theorem deletes_ready_row :
    ¬ ∀ (handler : Handler) (site : Site) (moves : List Move) (place : Nat) (stale : List Record)
      (id : String),
      let late := run handler moves (idle (.database {}) site)
      late.stale? place = some stale → late.status? id = some .ready →
        (late.step handler (.sweepOn place)).status? id = some .ready := by
  intro claimed
  let moves : List Move := slowUpload ++ [.sweep 10 60, .uploadOn 0]
  let late := run (.files {}) moves (idle (.database {}) {})
  have hfound : (late.stale? 0).isSome := by decide +kernel
  obtain ⟨stale, hstale⟩ := Option.isSome_iff_exists.mp hfound
  have hready : late.status? "BQAAAAAAAAA" = some .ready := by decide +kernel
  have hgone : (late.step (.files {}) (.sweepOn 0)).status? "BQAAAAAAAAA" = none := by
    decide +kernel
  have hkept := claimed (.files {}) {} moves 0 stale "BQAAAAAAAAA" hstale hready
  rw [show (run _ moves _) = late from rfl, hgone] at hkept
  cases hkept

end System

/-! ### Uploads that are reported -/

/-- What the user has learned of an upload that is over and succeeded. -/
def UploadTask.receipt? : UploadTask → Option Receipt
  | ended (.ok receipt) => some receipt
  | _ => none

/-- An upload to a store in memory, under an identifier: it is never between writing and reading. -/
inductive UploadTask.Plain (id : String) : UploadTask → Prop where
  | entered {record : Record} (source : Source) (h : record.id = id) :
      Plain id (entered record source)
  | moved {transfer : Transfer} (h : transfer.record.id = id) : Plain id (moved transfer)
  | ended (outcome : Except Failure Receipt) : Plain id (ended outcome)

namespace UploadTask

open MediaDepot.Action

theorem plain_start (depot : Depot) (uid : Uid) (source : Source) (mimeType user : Option String) :
    Plain uid.text ((start uid source mimeType user).run depot).1 := by
  obtain ⟨log, hrun⟩ := Handler.run_register_eq (Service.newRecord uid mimeType user) depot
  simp only [start, StateM.run_bind, hrun]
  cases depot.records.isTaken (Service.newRecord uid mimeType user).id with
  | true => exact .moved rfl
  | false => exact .entered source rfl

theorem Plain.next {id : String} {task : UploadTask} (h : Plain id task) (handler : Handler)
    {depot : Depot} (hmemory : depot.records.isDatabase = false) :
    Plain id ((task.next handler).run depot).1 := by
  obtain ⟨records, site⟩ := depot
  cases records with
  | database documents => cases hmemory
  | memory rows =>
      cases h with
      | @entered record source hid =>
          obtain ⟨location, etag, hrecord⟩ := handler.transfer_record record source site
          refine .moved ?_
          show ((handler.transfer record source).run site).1.record.id = id
          rw [hrecord]
          exact hid
      | moved hid => exact .ended _
      | ended outcome => exact .ended outcome

end UploadTask

namespace System

variable (handler : Handler) {s : System} {place : Nat}

/-- What the user has learned of the upload at a place. -/
def receipt? (s : System) (place : Nat) : Option Receipt :=
  s.uploads[place]?.bind UploadTask.receipt?

/-- With the next step of the upload at a place, the user learns of a file. -/
structure Reports (s : System) (place : Nat) (receipt : Receipt) : Prop where
  before : s.receipt? place = none
  after : (s.step handler (.uploadOn place)).receipt? place = some receipt

/-- The store holds the file that the user learned of: its row is ready and has the size told. -/
def Stores (s : System) (receipt : Receipt) : Prop :=
  ∃ row, s.depot.records.row? receipt.id = some row ∧ row.status = .ready ∧ row.size = receipt.size

/-- The rows that a sweep would take now. -/
def staleNow (s : System) (size age : Int) : List Record :=
  firstOf size (s.depot.records.rows.filter fun row => row.isStale (s.depot.site.epoch - age))

theorem plain_run {id : String} {task : UploadTask} (moves : List Move)
    (hmemory : s.depot.records.isDatabase = false) (h : s.uploads[place]? = some task)
    (hplain : task.Plain id) :
    ∃ task, (s.run handler moves).uploads[place]? = some task ∧ task.Plain id := by
  induction moves generalizing s task with
  | nil => exact ⟨task, h, hplain⟩
  | cons move moves ih =>
      have hkind := (isDatabase_step handler s move).trans hmemory
      rcases uploads_step handler h move with hsame | hnext
      · exact ih hkind hsame hplain
      · exact ih hkind hnext (hplain.next handler hmemory)

/-- An identifier is inserted when it is drawn. -/
theorem drawn_of_insert {id : String} {move : Move} (h : (id, Write.insert) ∈ s.writes move) :
    ∃ uid ∈ Move.drawn [move], uid.text = id := by
  cases move with
  | elsewhere change => cases h
  | upload uid source mimeType user =>
      obtain ⟨rfl, -⟩ := Prod.mk.inj (List.mem_singleton.mp h)
      exact ⟨uid, by simp [Move.drawn], rfl⟩
  | uploadOn place =>
      rw [writes] at h
      cases htask : s.uploads[place]? with
      | none => simp [htask] at h
      | some task => cases task <;> simp [htask, UploadTask.writes] at h
  | sweep size age =>
      cases hrecords : s.depot.records <;> simp [writes, SweepTask.startWrites, hrecords] at h
  | sweepOn place =>
      rw [writes] at h
      cases htask : s.sweeps[place]? with
      | none => simp [htask] at h
      | some task =>
          cases hrecords : s.depot.records <;> cases task <;>
            simp [htask, SweepTask.writes, hrecords] at h

/-- In memory, a row is removed when a sweep begins and takes it. -/
theorem remove_mem_writes_iff (hmemory : s.depot.records.isDatabase = false) {id : String}
    {move : Move} :
    (id, Write.remove) ∈ s.writes move ↔
      ∃ size age, move = .sweep size age ∧ id ∈ (s.staleNow size age).map (·.id) := by
  obtain ⟨⟨records, site⟩, uploads, sweeps⟩ := s
  cases records with
  | database documents => cases hmemory
  | memory rows =>
      cases move with
      | elsewhere change => simp [writes]
      | upload uid source mimeType user => simp [writes]
      | uploadOn place =>
          simp only [writes, reduceCtorEq, false_and, exists_false, iff_false]
          rcases uploads[place]? with _ | task
          · simp
          · cases task <;> simp [UploadTask.writes]
      | sweep size age =>
          simp [writes, SweepTask.startWrites, staleNow, RecordStore.rows, Memory.stale]
      | sweepOn place =>
          simp only [writes, reduceCtorEq, false_and, exists_false, iff_false]
          rcases sweeps[place]? with _ | task
          · simp
          · cases task <;> simp [SweepTask.writes]

/-- An identifier that is not drawn in a run is not inserted in it. -/
theorem insert_not_mem_history {uid : Uid} {moves : List Move} (h : uid ∉ Move.drawn moves) :
    Write.insert ∉ history handler uid.text moves s := by
  intro hmem
  obtain ⟨earlier, move, later, rfl, hwrite⟩ := (mem_history_iff handler).mp hmem
  obtain ⟨other, hother, htext⟩ := drawn_of_insert hwrite
  obtain rfl := Uid.text_injective htext
  rw [Move.drawn_append, Move.drawn_cons] at h
  exact h (List.mem_append_right _ (List.mem_append_left _ hother))

/-- In memory, a row is removed in a run when one of its sweeps takes it. -/
theorem remove_mem_history_iff (hmemory : s.depot.records.isDatabase = false) {id : String}
    {moves : List Move} :
    Write.remove ∈ history handler id moves s ↔
      ∃ earlier size age later, moves = earlier ++ .sweep size age :: later ∧
        id ∈ ((s.run handler earlier).staleNow size age).map (·.id) := by
  have hkind (earlier : List Move) : (s.run handler earlier).depot.records.isDatabase = false :=
    (isDatabase_run handler earlier s).trans hmemory
  rw [mem_history_iff]
  constructor
  · rintro ⟨earlier, move, later, heq, hwrite⟩
    obtain ⟨size, age, rfl, hmem⟩ := (remove_mem_writes_iff (hkind earlier)).mp hwrite
    exact ⟨earlier, size, age, later, heq, hmem⟩
  · rintro ⟨earlier, size, age, later, heq, hmem⟩
    exact ⟨earlier, _, later, heq,
      (remove_mem_writes_iff (hkind earlier)).mpr ⟨size, age, rfl, hmem⟩⟩

/-- A row that is there is still there after a run, in which its identifier is not drawn again, just
when it was not removed. -/
theorem isSome_row?_run (h : s.Sound) {uid : Uid} (hthere : (s.status? uid.text).isSome)
    {moves : List Move} (hdrawn : uid ∉ Move.drawn moves) :
    ((s.run handler moves).depot.records.row? uid.text).isSome ↔
      Write.remove ∉ history handler uid.text moves s := by
  rw [← Write.isSome_foldl_apply (insert_not_mem_history handler hdrawn) hthere,
    ← status?_run handler h, status?, Option.isSome_map]

/-- The last step of an upload to a store in memory settles the row, if it is still there. -/
theorem row?_settled (h : s.Sound) (hmemory : s.depot.records.isDatabase = false) {id : String}
    {task : UploadTask} (htask : s.uploads[place]? = some task) (hplain : task.Plain id)
    {receipt : Receipt} (hreports : s.Reports handler place receipt) :
    receipt.id = id ∧ ∃ uploaded : Record,
      (s.step handler (.uploadOn place)).depot.records.row? id =
        (s.depot.records.row? id).map
          (·.settled s.depot.site.epoch uploaded true receipt.size) := by
  obtain ⟨hlt, -⟩ := List.getElem?_eq_some_iff.mp htask
  obtain ⟨hbefore, hafter⟩ := hreports
  obtain ⟨memory, hholds, -⟩ := h
  obtain ⟨⟨records, site⟩, uploads, sweeps⟩ := s
  have hstep : (step handler ⟨⟨records, site⟩, uploads, sweeps⟩ (.uploadOn place)) =
      ⟨((task.next handler).run ⟨records, site⟩).2,
        uploads.set place ((task.next handler).run ⟨records, site⟩).1, sweeps⟩ := by
    simp only [step, show uploads[place]? = some task from htask]
  rw [hstep] at hafter ⊢
  simp only [receipt?] at hafter hbefore
  rw [List.getElem?_set_self hlt] at hafter
  rw [show uploads[place]? = some task from htask] at hbefore
  cases records with
  | database documents => cases hmemory
  | memory rows =>
      cases hplain with
      | entered source hid => cases hafter
      | ended outcome =>
          have hsame : (some (UploadTask.ended outcome)).bind UploadTask.receipt? = some receipt :=
            hafter
          rw [hbefore] at hsame
          cases hsame
      | @moved transfer hid =>
          obtain ⟨after, hrun, hholds', -⟩ := Service.run_settle hholds transfer
          have hnext : ((UploadTask.moved transfer).next handler).run ⟨.memory rows, site⟩ =
              (.ended transfer.receipt, after) :=
            congrArg (fun done : Except Failure Receipt × Depot =>
              (UploadTask.ended done.1, done.2)) hrun
          rw [hnext] at hafter ⊢
          obtain ⟨record, failure | done⟩ := transfer
          · cases hafter
          · -- the receipt does not depend on whether there was a row to settle
            obtain rfl : _ = receipt := Option.some.inj hafter
            refine ⟨hid, record, ?_⟩
            have hrows : after.records.row? id = _ := hholds'.row?_eq id
            rw [hrows, hholds.row?_eq, Memory.settle, Memory.get?_finish, if_pos hid.symm]
            rfl

/-- **When a reported upload is stored**: the row is ready and has the size that was reported just
when no sweep took it between the beginning and the end of the upload. Everything else may happen in
between, in any order and at any time. The steps are those of the service. -/
theorem reported_stored_iff (site : Site) (before between : List Move) (uid : Uid) (source : Source)
    (mimeType user : Option String) (receipt : Receipt)
    (distinct : (Move.drawn (before ++ .upload uid source mimeType user :: between)).Nodup) :
    let start := run handler before (idle (.memory {}) site)
    let begun := start.step handler (.upload uid source mimeType user)
    let late := run handler between begun
    Service.InSteps handler ∧
      (late.Reports handler start.uploads.length receipt →
        ((late.step handler (.uploadOn start.uploads.length)).Stores receipt ↔
          ∀ earlier size age later, between = earlier ++ .sweep size age :: later →
            uid.text ∉ ((run handler earlier begun).staleNow size age).map (·.id))) := by
  intro start begun late
  refine ⟨Service.inSteps handler, fun hreports => ?_⟩
  have hempty : (RecordStore.memory {}).Holds {} := rfl
  have hstart : start.Sound := (Sound.idle hempty site).run handler before
  have hbegun : begun.Sound := hstart.step handler _
  have hkind : begun.depot.records.isDatabase = false :=
    (isDatabase_step handler _ _).trans (isDatabase_run handler before _)
  obtain ⟨task, htask, hplain⟩ := plain_run handler between hkind List.getElem?_concat_length
    (UploadTask.plain_start start.depot uid source mimeType user)
  obtain ⟨hid, uploaded, hrow⟩ := row?_settled handler (hbegun.run handler between)
    ((isDatabase_run handler between _).trans hkind) htask hplain hreports
  have hthere : (begun.status? uid.text).isSome := by
    simp [begun, status?_step handler hstart, writes, writesTo, Write.apply]
  have hlater : uid ∉ Move.drawn between := by
    rw [Move.drawn_append, Move.drawn_cons] at distinct
    exact (List.nodup_cons.mp (List.nodup_append.mp distinct).2.1).1
  -- the row is there in the end just when it was not removed
  have hpresent : (late.depot.records.row? uid.text).isSome ↔
      Write.remove ∉ history handler uid.text between begun :=
    isSome_row?_run handler hbegun hthere hlater
  rw [Stores, hid, hrow]
  constructor
  · rintro ⟨row, hrow, -⟩ earlier size age later heq hmem
    have hsome : (late.depot.records.row? uid.text).isSome := by
      obtain ⟨old, hold, -⟩ := Option.map_eq_some_iff.mp hrow
      simp [late, hold]
    exact hpresent.mp hsome
      ((remove_mem_history_iff handler hkind).mpr ⟨earlier, size, age, later, heq, hmem⟩)
  · intro hspared
    have hkept : Write.remove ∉ history handler uid.text between begun := fun hmem => by
      obtain ⟨earlier, size, age, later, heq, hmem⟩ :=
        (remove_mem_history_iff handler hkind).mp hmem
      exact hspared earlier size age later heq hmem
    obtain ⟨old, hold⟩ := Option.isSome_iff_exists.mp (hpresent.mpr hkept)
    exact ⟨_, congrArg (Option.map _) hold, rfl, rfl⟩

/-- A sweep takes the row of a slow upload. -/
theorem reported_stored_iff_of_slow_upload :
    let start := run (.files {}) [] (idle (.memory {}) {})
    let begun := start.step (.files {})
      (.upload ⟨5⟩ (.ofBytes [97, 98, 99]) (some "text/plain") none)
    let late := run (.files {}) (slowTransfer ++ [.sweep 10 60]) begun
    let receipt : Receipt := ⟨"BQAAAAAAAAA", "/v0/file/s/BQAAAAAAAAA.txt", 3, "text/plain"⟩
    late.Reports (.files {}) start.uploads.length receipt ∧ Service.InSteps (.files {}) ∧
      ((late.step (.files {}) (.uploadOn start.uploads.length)).Stores receipt ↔
        ∀ earlier size age later, slowTransfer ++ [.sweep 10 60] = earlier ++
          .sweep size age :: later →
          Uid.text ⟨5⟩ ∉ ((run (.files {}) earlier begun).staleNow size age).map (·.id)) := by
  obtain ⟨hsteps, hstored⟩ :=
    reported_stored_iff (.files {}) {} [] (slowTransfer ++ [.sweep 10 60]) ⟨5⟩
    (.ofBytes [97, 98, 99]) (some "text/plain") none
    ⟨"BQAAAAAAAAA", "/v0/file/s/BQAAAAAAAAA.txt", 3, "text/plain"⟩ (by decide)
  intro start begun late receipt
  have hreports : late.Reports (.files {}) start.uploads.length receipt :=
    ⟨by decide +kernel, by decide +kernel⟩
  exact ⟨hreports, hsteps, hstored hreports⟩

/-- The clock never goes back. -/
def Forward : List Move → System → Prop
  | [], _ => True
  | move :: moves, s =>
    s.depot.site.now ≤ (s.step handler move).depot.site.now ∧ Forward moves (s.step handler move)

instance decidableForward : (moves : List Move) → (s : System) → Decidable (Forward handler moves s)
  | [], _ => isTrue trivial
  | move :: moves, s =>
    have := decidableForward moves (s.step handler move)
    inferInstanceAs (Decidable (_ ∧ _))

/-- A sweep takes the row of a slow upload, which succeeds all the same and is reported. -/
theorem reports_lost_upload :
    ¬ ∀ (handler : Handler) (site : Site) (moves : List Move) (place : Nat) (receipt : Receipt),
      (Move.drawn moves).Nodup → Forward handler moves (idle (.memory {}) site) →
        (run handler moves (idle (.memory {}) site)).Reports handler place receipt →
          ((run handler moves (idle (.memory {}) site)).step handler (.uploadOn place)).Stores
            receipt := by
  intro claimed
  have hgone : ((run (.files {}) (slowUpload ++ [.sweep 10 60]) (idle (.memory {}) {})).step
      (.files {}) (.uploadOn 0)).depot.records.row? "BQAAAAAAAAA" = none := by decide +kernel
  have hstores := claimed (.files {}) {} (slowUpload ++ [.sweep 10 60]) 0
    ⟨"BQAAAAAAAAA", "/v0/file/s/BQAAAAAAAAA.txt", 3, "text/plain"⟩ (by decide) (by decide +kernel)
    ⟨by decide +kernel, by decide +kernel⟩
  exact hstores.elim fun row hrow => Option.some_ne_none row (hrow.1.symm.trans hgone)

end System

end MediaDepot
