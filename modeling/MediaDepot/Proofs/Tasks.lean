import MediaDepot.Proofs.Uploads

/-!
# MediaDepot.Proofs.Tasks

**Uploads and sweeps in steps that others may come between.** An upload enters its row, brings its
content to its place and settles the row; a sweep removes rows and then deletes their objects. Rows
in memory are settled, and removed, in one step. In a database both take two: a document is written
and then read again, stale documents are found and then deleted by their keys.

`UploadTask.alone` and `SweepTask.alone` say that a task whose steps follow each other without
anything in between is `Service.upload` and `Service.sweep`; `Service.InSteps` is both.
-/

namespace MediaDepot

open MediaDepot.Action

/-! ### Uploads -/

/-- An upload after one of its steps. -/
inductive UploadTask where
  /-- The row was added. -/
  | entered (record : Record) (source : Source)
  /-- The content came to its place or did not. A refused row counts as a transfer that failed. -/
  | moved (transfer : Transfer)
  /-- The document in the database was written; it is still to be read again. -/
  | updated (transfer : Transfer)
  | ended (outcome : Except Failure Receipt)

/-- Writes what settles a row into its document. -/
def RecordStore.updateOne (documents : Collection) (record : Record) (success : Bool) (size : Int) :
    StateM Depot Unit := do
  let changes := settlement (← epoch) record success size
  onSite (Site.note (.updateOne record.id changes))
  modify fun depot => { depot with records := .database (documents.update record.id changes) }

namespace UploadTask

/-- The first step: the row is added. -/
def start (uid : Uid) (source : Source) (mimeType user : Option String) :
    StateM Depot UploadTask := do
  let (record, outcome) ← Handler.register (Service.newRecord uid mimeType user)
  match outcome with
  | .error failure => return moved ⟨record, .error failure⟩
  | .ok _ => return entered record source

/-- The next step. -/
def next (handler : Handler) : UploadTask → StateM Depot UploadTask
  | entered record source => return moved (← onSite (handler.transfer record source))
  | moved transfer => do
    match (← get).records with
    | .memory _ => return ended (← attempt (Service.settle transfer))
    | .database documents =>
      RecordStore.updateOne documents transfer.record transfer.succeeded transfer.size
      return updated transfer
  | updated transfer => do
    let found ← attempt (RecordStore.get transfer.record.id)
    return ended (found.bind fun _ => transfer.receipt)
  | ended outcome => return ended outcome

/-- All steps that are left. -/
def rest (handler : Handler) (task : UploadTask) : StateM Depot UploadTask := do
  next handler (← next handler (← next handler task))

end UploadTask

/-! ### Sweeps -/

/-- A sweep after one of its steps. -/
inductive SweepTask where
  /-- Stale documents were found in the database. -/
  | found (stale : List Record)
  /-- The rows were removed; their objects are at these places. -/
  | removed (locations : List String)
  | ended (outcome : Except Failure Nat)

namespace SweepTask

/-- The first step: rows in memory are removed, and documents are found. -/
def start (size age : Int) : StateM Depot SweepTask := do
  let olderThan := (← epoch) - age
  match (← get).records with
  | .memory _ =>
    match ← attempt (RecordStore.removeStale olderThan size) with
    | .ok locations => return removed locations
    | .error failure => return ended (.error failure)
  | .database documents =>
    match ← attempt (RecordStore.findStale olderThan size documents) with
    | .ok stale => return found stale
    | .error failure => return ended (.error failure)

/-- The last step: the objects are deleted. -/
def tidy (handler : Handler) (locations : List String) : Action Nat := do
  if locations.isEmpty then return 0
  handler.delete locations
  say .info ("garbage collected " ++ toString locations.length ++ " stale upload(s)")
  return locations.length

/-- The next step. -/
def next (handler : Handler) : SweepTask → StateM Depot SweepTask
  | found stale => do
    if stale.isEmpty then return removed []
    match ← attempt (RecordStore.deleteMany (stale.map (·.id))) with
    | .ok _ => return removed (stale.map (·.staleLocation))
    | .error failure => return ended (.error failure)
  | removed locations => return ended (← attempt (tidy handler locations))
  | ended outcome => return ended outcome

/-- All steps that are left. -/
def rest (handler : Handler) (task : SweepTask) : StateM Depot SweepTask := do
  next handler (← next handler task)

end SweepTask

/-! ### Tasks without anything in between -/

variable {depot : Depot}

theorem RecordStore.run_finish_database (documents : Collection) (site : Site) (record : Record)
    (success : Bool) (size : Int) :
    (finish record success size).run ⟨.database documents, site⟩ =
      (get record.id).run
        ((updateOne documents record success size).run ⟨.database documents, site⟩).2 := by
  simp only [finish, Action.run_bind, Action.run_lift, Action.run_epoch, Action.run_get, run_note,
    run_put]
  rfl

/-- Settling in a database is writing the document and reading it again. -/
theorem UploadTask.run_settle_database (documents : Collection) (site : Site)
    (transfer : Transfer) : (Service.settle transfer).run ⟨.database documents, site⟩ =
      let written := ((RecordStore.updateOne documents transfer.record transfer.succeeded
        transfer.size).run ⟨.database documents, site⟩).2
      let found := (RecordStore.get transfer.record.id).run written
      (found.1.bind fun _ => transfer.receipt, found.2) := by
  obtain ⟨record, failure | uploaded⟩ := transfer
  all_goals
    simp only [Service.settle, Action.run_bind, RecordStore.run_finish_database]
    simp only [Transfer.succeeded, Transfer.size]
    rcases (RecordStore.get record.id).run _ with ⟨failure | row, after⟩ <;> rfl

/-- The last two steps of an upload settle its row. -/
theorem UploadTask.run_next_next_of_moved (handler : Handler) (transfer : Transfer)
    (depot : Depot) : (do next handler (← next handler (moved transfer))).run depot =
      (ended ((Service.settle transfer).run depot).1, ((Service.settle transfer).run depot).2) := by
  obtain ⟨records, site⟩ := depot
  cases records with
  | memory rows => rfl
  | database documents =>
      rw [run_settle_database]
      rfl

/-- **An upload whose steps follow each other** is `Service.upload`. -/
theorem UploadTask.alone {uid : Uid} {lot : Lot} (hdraw : Uid.draw depot.site.lot = (.ok uid, lot))
    (handler : Handler) (source : Source) (mimeType user : Option String) :
    (do rest handler (← start uid source mimeType user)).run (Service.drawn depot lot) =
      (ended ((Service.upload handler source mimeType user).run depot).1,
        ((Service.upload handler source mimeType user).run depot).2) := by
  rw [Service.run_upload_of_drawn hdraw]
  simp only [StateM.run_bind, Handler.upload, start, rest]
  rcases (Handler.register (Service.newRecord uid mimeType user)).run (Service.drawn depot lot) with
    ⟨⟨record, failure | entered⟩, begun⟩
  · have hsettled := run_next_next_of_moved handler ⟨record, .error failure⟩ begun
    exact congrArg (fun done : UploadTask × Depot => (next handler done.1).run done.2) hsettled
  · exact run_next_next_of_moved handler _ _

theorem SweepTask.run_sweep (handler : Handler) (size age : Int) (depot : Depot) :
    (Service.sweep handler size age).run depot =
      match (RecordStore.removeStale (depot.site.epoch - age) size).run depot with
      | (.ok locations, after) => (tidy handler locations).run after
      | (.error failure, after) => (.error failure, after) := by
  simp only [Service.sweep, Action.run_bind, Action.run_lift, Action.run_epoch]
  rcases (RecordStore.removeStale (depot.site.epoch - age) size).run depot with
    ⟨failure | locations, after⟩ <;> rfl

theorem SweepTask.run_start_database (size age : Int) (documents : Collection) (site : Site) :
    (start size age).run ⟨.database documents, site⟩ =
      match (RecordStore.findStale (site.epoch - age) size documents).run
          ⟨.database documents, site⟩ with
      | (.ok stale, depot) => (found stale, depot)
      | (.error failure, depot) => (ended (.error failure), depot) := by
  show (attempt (RecordStore.findStale (site.epoch - age) size documents) >>= fun outcome =>
      match outcome with
      | .ok stale => (pure (found stale) : StateM Depot SweepTask)
      | .error failure => pure (ended (.error failure))).run _ = _
  rw [StateM.run_bind, run_attempt]
  rcases (RecordStore.findStale (site.epoch - age) size documents).run
    ⟨.database documents, site⟩ with ⟨failure | stale, depot⟩ <;> rfl

/-- Found documents are deleted if there are any, and then their objects. -/
theorem SweepTask.run_rest_of_found (handler : Handler) (stale : List Record) (depot : Depot) :
    (rest handler (found stale)).run depot =
      if stale.isEmpty then (ended (.ok 0), depot)
      else match (RecordStore.deleteMany (stale.map (·.id))).run depot with
        | (.ok _, after) =>
          (ended ((tidy handler (stale.map (·.staleLocation))).run after).1,
            ((tidy handler (stale.map (·.staleLocation))).run after).2)
        | (.error failure, after) => (ended (.error failure), after) := by
  by_cases hempty : stale.isEmpty = true
  · rw [if_pos hempty, rest, StateM.run_bind, next, if_pos hempty]
    rfl
  · rw [if_neg hempty, rest, StateM.run_bind, next, if_neg hempty, StateM.run_bind, run_attempt]
    rcases hdelete : (RecordStore.deleteMany (stale.map (·.id))).run depot with
      ⟨failure | done, after⟩
    all_goals
      rw [hdelete]
      rfl

/-- **A sweep whose steps follow each other** is `Service.sweep`. -/
theorem SweepTask.alone (handler : Handler) (size age : Int) (depot : Depot) :
    (do rest handler (← start size age)).run depot =
      (ended ((Service.sweep handler size age).run depot).1,
        ((Service.sweep handler size age).run depot).2) := by
  rw [run_sweep]
  obtain ⟨records, site⟩ := depot
  cases records with
  | memory rows => rfl
  | database documents =>
      rw [StateM.run_bind, run_start_database]
      simp only [RecordStore.removeStale, Action.run_bind, Action.run_get]
      rcases (RecordStore.findStale (site.epoch - age) size documents).run
        ⟨.database documents, site⟩ with ⟨failure | stale, depot⟩
      · rfl
      · simp only [run_rest_of_found]
        by_cases hempty : stale.isEmpty = true
        · simp only [if_pos hempty]
          rfl
        · simp only [if_neg hempty, Action.run_bind]
          rcases hdelete : (RecordStore.deleteMany (stale.map (·.id))).run depot with
            ⟨failure | done, after⟩
          · rw [hdelete]
          · rw [hdelete]
            rfl

/-- **The steps are those of the service**: where nothing comes in between, the steps of an upload
come to what `Service.upload` does, once it has drawn an identifier, and the steps of a sweep to
what `Service.sweep` does. -/
structure Service.InSteps (handler : Handler) : Prop where
  upload : ∀ {depot : Depot} {uid : Uid} {lot : Lot}, Uid.draw depot.site.lot = (.ok uid, lot) →
    ∀ (source : Source) (mimeType user : Option String),
      (do UploadTask.rest handler (← UploadTask.start uid source mimeType user)).run
          (Service.drawn depot lot) =
        (.ended ((Service.upload handler source mimeType user).run depot).1,
          ((Service.upload handler source mimeType user).run depot).2)
  sweep : ∀ (size age : Int) (depot : Depot),
    (do SweepTask.rest handler (← SweepTask.start size age)).run depot =
      (.ended ((Service.sweep handler size age).run depot).1,
        ((Service.sweep handler size age).run depot).2)

theorem Service.inSteps (handler : Handler) : InSteps handler where
  upload hdraw := UploadTask.alone hdraw handler
  sweep := SweepTask.alone handler

end MediaDepot
