import MediaDepot.Proofs.Stores
import MediaDepot.Proofs.Transfers
import MediaDepot.Service

/-!
# MediaDepot.Proofs.Uploads

**What uploads and sweeps do to the rows**, whichever store holds them. An upload draws an
identifier, enters a row, brings the content to its place and settles the row:

* `Service.run_upload_of_fresh` — the new row comes last and is settled by what the transfer came
  to.
* `Service.run_upload_of_taken` — no row is added, and nothing is transferred; but the row that has
  the identifier is settled as if it were the one of the upload.

A sweep removes the stale rows and deletes their objects (`Service.run_sweepBy`, `run_sweep`); the
deletion does not touch the rows (`Handler.delete_sparesRecords`).
-/

namespace MediaDepot

/-! ### Settling -/

/-- Did the content come to its place? -/
def Transfer.succeeded (transfer : Transfer) : Bool :=
  match transfer.outcome with
  | .ok _ => true
  | .error _ => false

/-- The size that is noted in the row. -/
def Transfer.size (transfer : Transfer) : Nat :=
  match transfer.outcome with
  | .ok uploaded => uploaded.size
  | .error _ => 0

/-- What the user learns of the transfer. -/
def Transfer.receipt (transfer : Transfer) : Except Failure Receipt :=
  transfer.outcome.map fun uploaded =>
    ⟨transfer.record.id, uploaded.url, uploaded.size, transfer.record.mimeType⟩

/-- The rows once a transfer has been settled. -/
def Memory.settle (memory : Memory) (now : Int) (transfer : Transfer) : Memory :=
  (memory.finish now transfer.record transfer.succeeded transfer.size).1

namespace Service

variable {depot : Depot} {memory : Memory}

theorem run_settle (h : depot.records.Holds memory) (transfer : Transfer) :
    ∃ after, (settle transfer).run depot = (transfer.receipt, after) ∧
      depot.Keeps after (memory.settle depot.site.epoch transfer) := by
  obtain ⟨record, failure | uploaded⟩ := transfer
  · obtain ⟨after, hrun, hafter⟩ := RecordStore.run_finish h record false 0
    refine ⟨after, ?_, hafter⟩
    simp only [settle, Action.run_bind, hrun, Action.run_throw]
    rfl
  · obtain ⟨after, hrun, hafter⟩ := RecordStore.run_finish h record true uploaded.size
    refine ⟨after, ?_, hafter⟩
    simp only [settle, Action.run_bind, hrun, Action.run_pure]
    rfl

/-- Settling the new row of an upload leaves everything else in the store alone. -/
theorem run_settle_append {records : RecordStore} {record : Record}
    (fresh : records.isTaken record.id = false) {transfer : Transfer}
    (hid : transfer.record.id = record.id) (site : Site) :
    ∃ after, (settle transfer).run ⟨records.append record, site⟩ =
        (transfer.receipt, ⟨records.append (record.settled site.epoch transfer.record
          transfer.succeeded transfer.size), after⟩) ∧
      Site.Noted site after := by
  obtain ⟨uploaded, failure | done⟩ := transfer
  · obtain ⟨after, hrun, hafter⟩ := RecordStore.run_finish_append fresh hid false 0 site
    refine ⟨after, ?_, hafter⟩
    simp only [settle, Action.run_bind, hrun, Action.run_throw]
    rfl
  · obtain ⟨after, hrun, hafter⟩ := RecordStore.run_finish_append fresh hid true done.size site
    refine ⟨after, ?_, hafter⟩
    simp only [settle, Action.run_bind, hrun, Action.run_pure]
    rfl

end Service

/-! ### Entering -/

namespace Handler

variable {depot : Depot} {memory : Memory}

/-- **Entering a row** adds it unless its identifier is taken, and a refusal is logged. -/
theorem run_register_eq (record : Record) (depot : Depot) :
    let begun := record.begun depot.site.epoch
    let noted := depot.noting (depot.records.insertions begun)
    ∃ log, (register record).run depot =
      if depot.records.isTaken record.id then
        ((begun, .error (depot.records.refusal record.id)),
          { noted with site := { noted.site with log } })
      else ((begun, .ok ⟨⟩), { noted with records := depot.records.append begun }) := by
  intro begun noted
  have hstart : (RecordStore.start begun).run depot =
      if depot.records.isTaken record.id then (.error (depot.records.refusal record.id), noted)
      else (.ok ⟨⟩, { noted with records := depot.records.append begun }) :=
    RecordStore.run_start_eq begun depot
  simp only [register, RecordStore.enter, StateM.run_bind, Action.run_epoch, Action.run_attempt]
  rw [hstart]
  cases depot.records.isTaken record.id with
  | true => exact ⟨_, rfl⟩
  | false => exact ⟨[], rfl⟩

theorem run_register_of_fresh (h : depot.records.Holds memory) (record : Record)
    (fresh : memory.get? record.id = none) :
    ∃ after, (register record).run depot = ((record.begun depot.site.epoch, .ok ⟨⟩), after) ∧
      depot.Keeps after (memory.append (record.begun depot.site.epoch)) := by
  obtain ⟨log, hrun⟩ := run_register_eq record depot
  rw [h.isTaken_eq, fresh] at hrun
  exact ⟨_, hrun, h.append _, RecordStore.noted_insertions depot _⟩

theorem run_register_of_taken (h : depot.records.Holds memory) (record : Record)
    (taken : (memory.get? record.id).isSome) :
    ∃ failure after,
      (register record).run depot = ((record.begun depot.site.epoch, .error failure), after) ∧
        depot.Keeps after memory := by
  obtain ⟨log, hrun⟩ := run_register_eq record depot
  rw [h.isTaken_eq, taken] at hrun
  exact ⟨_, _, hrun, h, (RecordStore.noted_insertions depot _).logged⟩

/-- **An upload** enters its row; if that is refused, nothing else happens, and otherwise the
content is brought to its place. -/
theorem run_upload_eq (handler : Handler) (record : Record) (source : Source) (depot : Depot) :
    let begun := record.begun depot.site.epoch
    let noted := depot.noting (depot.records.insertions begun)
    let transfer := (handler.transfer begun source).run noted.site
    ∃ log, (handler.upload record source).run depot =
      if depot.records.isTaken record.id then
        (⟨begun, .error (depot.records.refusal record.id)⟩,
          { noted with site := { noted.site with log } })
      else (transfer.1, ⟨depot.records.append begun, transfer.2⟩) := by
  intro begun noted transfer
  obtain ⟨log, hregister⟩ := run_register_eq record depot
  refine ⟨log, ?_⟩
  simp only [upload, StateM.run_bind, hregister]
  cases depot.records.isTaken record.id <;> rfl

theorem run_upload_of_free (handler : Handler) (record : Record) (source : Source)
    (free : depot.records.isTaken record.id = false) :
    let begun := record.begun depot.site.epoch
    ∃ site, Site.Noted depot.site site ∧
      (handler.upload record source).run depot =
        (((handler.transfer begun source).run site).1,
          ⟨depot.records.append begun, ((handler.transfer begun source).run site).2⟩) := by
  obtain ⟨log, hrun⟩ := run_upload_eq handler record source depot
  rw [free] at hrun
  exact ⟨_, RecordStore.noted_insertions depot _, hrun⟩

end Handler

/-! ### Uploading -/

namespace Service

variable {depot : Depot} {memory : Memory}

/-- The record with which an upload enters its row. -/
def entered (uid : Uid) (mimeType user : Option String) (now : Int) : Record :=
  (newRecord uid mimeType user).begun now

/-- The depot after numbers have been drawn. -/
def drawn (depot : Depot) (lot : Lot) : Depot := { depot with site := { depot.site with lot } }

theorem run_drawUid (depot : Depot) :
    drawUid.run depot =
      ((Uid.draw depot.site.lot).1.mapError .value, drawn depot (Uid.draw depot.site.lot).2) := by
  simp only [drawUid, Action.run_bind, Action.run_get, Action.run_set]
  cases (Uid.draw depot.site.lot).1 <;> rfl

theorem run_upload_of_drawn {uid : Uid} {lot : Lot}
    (hdraw : Uid.draw depot.site.lot = (.ok uid, lot))
    (handler : Handler) (source : Source) (mimeType user : Option String) :
    (upload handler source mimeType user).run depot =
      let transferred := (handler.upload (newRecord uid mimeType user) source).run (drawn depot lot)
      (settle transferred.1).run transferred.2 := by
  simp only [upload, Action.run_bind, run_drawUid, hdraw, Except.mapError, Action.run_lift]

/-- **An upload under a fresh identifier** adds its row, brings the content to its place and settles
the row. Nothing else in the store changes. -/
theorem run_upload_of_not_taken {uid : Uid} {lot : Lot}
    (hdraw : Uid.draw depot.site.lot = (.ok uid, lot))
    (fresh : depot.records.isTaken uid.text = false)
    (handler : Handler) (source : Source) (mimeType user : Option String) :
    let record := entered uid mimeType user depot.site.epoch
    ∃ (transfer : Transfer) (begun site after : Site),
      Site.Noted (drawn depot lot).site begun ∧
        (handler.transfer record source).run begun = (transfer, site) ∧
        (handler.upload (newRecord uid mimeType user) source).run (drawn depot lot) =
          (transfer, ⟨depot.records.append record, site⟩) ∧
        (upload handler source mimeType user).run depot =
          (transfer.receipt, ⟨depot.records.append (record.settled site.epoch transfer.record
            transfer.succeeded transfer.size), after⟩) ∧
        Site.Noted site after := by
  intro record
  have hdrawn : (drawn depot lot).records.isTaken uid.text = false := fresh
  obtain ⟨begun, hbegun, hrun⟩ :=
    handler.run_upload_of_free (newRecord uid mimeType user) source hdrawn
  rcases htransfer : (handler.transfer record source).run begun with ⟨transfer, site⟩
  -- the row is settled by the identifier, which the transfer keeps
  have hid : transfer.record.id = record.id := by
    obtain ⟨location, etag, hrecord⟩ := handler.transfer_record record source begun
    rw [htransfer] at hrecord
    rw [hrecord]
  have hmoved : (handler.upload (newRecord uid mimeType user) source).run (drawn depot lot) =
      (transfer, ⟨depot.records.append record, site⟩) :=
    hrun.trans (congrArg (fun done : Transfer × Site =>
      (done.1, (⟨depot.records.append record, done.2⟩ : Depot))) htransfer)
  obtain ⟨after, hsettle, hafter⟩ := run_settle_append fresh hid site
  refine ⟨transfer, begun, site, after, hbegun, htransfer, hmoved, ?_, hafter⟩
  rw [run_upload_of_drawn hdraw, hmoved, ← hsettle]

theorem run_upload_of_fresh (h : depot.records.Holds memory) {uid : Uid} {lot : Lot}
    (hdraw : Uid.draw depot.site.lot = (.ok uid, lot)) (fresh : memory.get? uid.text = none)
    (handler : Handler) (source : Source) (mimeType user : Option String) :
    ∃ (begun : Depot) (transfer : Transfer) (site : Site) (after : Depot),
      Site.Noted (drawn depot lot).site begun.site ∧
        (handler.transfer (entered uid mimeType user depot.site.epoch) source).run begun.site =
          (transfer, site) ∧
        (upload handler source mimeType user).run depot = (transfer.receipt, after) ∧
        after.records.Holds (memory.append ((entered uid mimeType user depot.site.epoch).settled
          site.epoch transfer.record transfer.succeeded transfer.size)) ∧
        Site.Noted site after.site := by
  obtain ⟨transfer, begun, site, after, hbegun, htransfer, -, hrun, hafter⟩ :=
    run_upload_of_not_taken hdraw (by rw [h.isTaken_eq, fresh]; rfl) handler source mimeType user
  exact ⟨⟨depot.records, begun⟩, transfer, site, _, hbegun, htransfer, hrun, h.append _, hafter⟩

/-- **An upload under an identifier that is taken** fails before anything is transferred. Settling
then marks the row that has the identifier. -/
theorem run_upload_of_taken (h : depot.records.Holds memory) {uid : Uid} {lot : Lot}
    (hdraw : Uid.draw depot.site.lot = (.ok uid, lot)) (taken : (memory.get? uid.text).isSome)
    (handler : Handler) (source : Source) (mimeType user : Option String) :
    ∃ failure after, (upload handler source mimeType user).run depot = (.error failure, after) ∧
      (drawn depot lot).Keeps after
        (memory.finish depot.site.epoch (entered uid mimeType user depot.site.epoch)
          false 0).1 := by
  have hdrawn : (drawn depot lot).records.Holds memory := h
  -- the refusal counts as a transfer that failed
  obtain ⟨failure, refused, hregister, hrefused⟩ :=
    Handler.run_register_of_taken hdrawn (newRecord uid mimeType user) taken
  obtain ⟨after, hsettle, hafter⟩ := run_settle hrefused.holds
    ⟨entered uid mimeType user depot.site.epoch, .error failure⟩
  have hepoch : refused.site.epoch = depot.site.epoch := hrefused.noted.epoch
  refine ⟨failure, after, ?_, ?_⟩
  · rw [run_upload_of_drawn hdraw]
    simp only [Handler.upload, StateM.run_bind, hregister]
    exact hsettle
  · rw [hepoch] at hafter
    exact hrefused.trans hafter

theorem run_upload_of_undrawn {fault : ValueFault} {lot : Lot}
    (hdraw : Uid.draw depot.site.lot = (.error fault, lot)) (handler : Handler) (source : Source)
    (mimeType user : Option String) :
    (upload handler source mimeType user).run depot = (.error (.value fault), drawn depot lot) := by
  simp only [upload, Action.run_bind, run_drawUid, hdraw, Except.mapError]

end Service

/-! ### Sweeping -/

namespace LocalHandler

/-- Deleting goes through all locations, whether or not some fail. -/
theorem delete_after (handler : LocalHandler) (locations : List String) (depot : Depot) :
    ((handler.delete locations).run depot).2 =
      { depot with
        site :=
          { depot.site with files := (handler.deleteAll locations depot.site.files).1 } } := by
  simp only [delete, Action.run_bind, Action.run_get]
  rcases handler.deleteAll locations depot.site.files with ⟨files, failures⟩
  cases failures <;> rfl

end LocalHandler

/-- The action leaves the records as they are. -/
def Action.SparesRecords {α : Type} (work : Action α) : Prop :=
  ∀ depot, (work.run depot).2.records = depot.records

namespace Action.SparesRecords

variable {α β : Type}

theorem pure (a : α) : SparesRecords (Pure.pure a) := fun _ => rfl

theorem mediaError (error : MediaError) : SparesRecords (Action.mediaError error : Action α) :=
  fun _ => rfl

theorem fault (fault : Fault) : SparesRecords (Action.fault fault : Action α) := fun _ => rfl

theorem ask (report : Fault → Failure) (work : StateM Site (Except Fault α)) :
    SparesRecords (Action.ask report work) := fun _ => rfl

theorem ofFault (outcome : Except Fault α) : SparesRecords (Action.ofFault outcome) := by
  cases outcome <;> exact fun _ => rfl

theorem bind {work : Action α} {next : α → Action β} (h : work.SparesRecords)
    (hnext : ∀ a, (next a).SparesRecords) : (work >>= next).SparesRecords := fun depot =>
  after_bind (fun before after => after.records = before.records)
    (fun hfirst hsecond => hsecond.trans hfirst) (h depot) hnext

theorem holds {work : Action α} (hspares : work.SparesRecords) {depot : Depot} {memory : Memory}
    (h : depot.records.Holds memory) : (work.run depot).2.records.Holds memory := by
  rw [hspares depot]
  exact h

end Action.SparesRecords

namespace BucketHandler

open MediaDepot.Action

variable (handler : BucketHandler)

theorem deleteBatch_sparesRecords (keys : List String) :
    (handler.deleteBatch keys).SparesRecords := by
  refine .bind ?_ fun answer => .ofFault _
  unfold withClient
  split
  · exact .ask _ _
  · exact .fault _

theorem deleteBatches_sparesRecords (batches : List (List String)) :
    (handler.deleteBatches batches).SparesRecords := by
  induction batches with
  | nil => exact .pure []
  | cons batch rest ih =>
      exact .bind (handler.deleteBatch_sparesRecords batch) fun failures =>
        .bind ih fun more => .pure _

end BucketHandler

/-- **Deleting objects does not touch the rows.** -/
theorem Handler.delete_sparesRecords (handler : Handler) (locations : List String) :
    (handler.delete locations).SparesRecords := by
  cases handler with
  | files handler =>
      intro depot
      rw [delete, LocalHandler.delete_after]
  | bucket handler =>
      refine .bind (handler.deleteBatches_sparesRecords _) fun failures => ?_
      split
      · exact .pure _
      · exact .mediaError _

/-- The depot after the rows of a sweep have been removed. -/
def Service.cleared (depot : Depot) (size age : Int) : Depot :=
  ((RecordStore.removeStale (depot.site.epoch - age) size).run depot).2

/-- Reports the number of objects that were deleted. -/
def Service.report (number : Nat) : Action Nat := do
  Action.say .info ("garbage collected " ++ toString number ++ " stale upload(s)")
  return number

/-- A sweep, whatever it is that deletes. -/
def Service.sweepBy (delete : List String → Action Unit) (size age : Int) : Action Nat := do
  let now ← Action.epoch
  let locations ← RecordStore.removeStale (now - age) size
  if locations.isEmpty then return 0
  delete locations
  report locations.length

/-- What a sweep comes to that hands these locations over: when the rows have been removed, what
deletes is called with the locations once, and it is not called at all if there are none. -/
def Service.handOver (delete : List String → Action Unit) (depot : Depot) (size age : Int)
    (locations : List String) : Except Failure Nat × Depot :=
  if locations = [] then (.ok 0, cleared depot size age)
  else (do delete locations; report locations.length : Action Nat).run (cleared depot size age)

theorem Service.sweepBy_delete (handler : Handler) (size age : Int) :
    sweepBy handler.delete size age = sweep handler size age := rfl

/-- **A sweep** removes the stale rows; then whatever it is that deletes is called with the
locations of their objects, if there are any. -/
theorem Service.run_sweepBy {depot : Depot} {memory : Memory} (h : depot.records.Holds memory)
    (delete : List String → Action Unit) (size age : Int) :
    depot.Keeps (cleared depot size age) (memory.removeStale (depot.site.epoch - age) size).1 ∧
      (sweepBy delete size age).run depot = handOver delete depot size age
        (memory.removeStale (depot.site.epoch - age) size).2 := by
  obtain ⟨swept, hrun, hswept⟩ := RecordStore.run_removeStale h (depot.site.epoch - age) size
  have hcleared : cleared depot size age = swept := by rw [cleared, hrun]
  rw [handOver, hcleared]
  refine ⟨hswept, ?_⟩
  simp only [sweepBy, Action.run_bind, Action.run_lift, Action.run_epoch, hrun, List.isEmpty_iff]
  split
  · rfl
  · exact Action.run_bind _ _ swept

/-- A sweep of a handler removes the stale rows and deletes their objects. -/
theorem Service.run_sweep {depot : Depot} {memory : Memory} (h : depot.records.Holds memory)
    (handler : Handler) (size age : Int) :
    ∃ swept : Depot, depot.Keeps swept (memory.removeStale (depot.site.epoch - age) size).1 ∧
      (sweep handler size age).run depot =
        let locations := (memory.removeStale (depot.site.epoch - age) size).2
        if locations.isEmpty then (.ok 0, swept)
        else match (handler.delete locations).run swept with
          | (.error failure, after) => (.error failure, after)
          | (.ok _, after) =>
            (.ok locations.length, ⟨after.records, ((Site.say .info ("garbage collected " ++
              toString locations.length ++ " stale upload(s)")).run after.site).2⟩) := by
  obtain ⟨hswept, hrun⟩ := run_sweepBy h handler.delete size age
  refine ⟨cleared depot size age, hswept, ?_⟩
  rw [← sweepBy_delete, hrun, handOver]
  simp only [List.isEmpty_iff]
  split
  · rfl
  · rw [Action.run_bind]
    rcases (handler.delete (memory.removeStale (depot.site.epoch - age) size).2).run
      (cleared depot size age) with ⟨failure | done, after⟩ <;> rfl

/-- There is nothing to do for no locations. -/
theorem Handler.delete_nil (handler : Handler) (depot : Depot) :
    ((handler.delete []).run depot).2 = depot := by
  cases handler with
  | files handler =>
      rw [delete, LocalHandler.delete_after]
      rfl
  | bucket handler =>
      rw [delete, BucketHandler.delete, batches]
      rfl

/-- What a sweep leaves behind: its rows are removed, and their objects are deleted as far as that
goes. -/
theorem Service.sweep_after {depot : Depot} {memory : Memory} (h : depot.records.Holds memory)
    (handler : Handler) (size age : Int) :
    let stale := memory.removeStale (depot.site.epoch - age) size
    let after := ((sweep handler size age).run depot).2
    ∃ swept : Depot, depot.Keeps swept stale.1 ∧ after.records.Holds stale.1 ∧
      Site.Noted ((handler.delete stale.2).run swept).2.site after.site := by
  obtain ⟨swept, hswept, hrun⟩ := run_sweep h handler size age
  rw [hrun]
  generalize memory.removeStale (depot.site.epoch - age) size = stale at *
  have hholds := (handler.delete_sparesRecords stale.2).holds hswept.holds
  refine ⟨swept, hswept, ?_⟩
  dsimp only
  split
  · next hempty =>
      rw [List.isEmpty_iff.mp hempty, handler.delete_nil]
      exact ⟨hswept.holds, .refl _⟩
  · generalize (handler.delete stale.2).run swept = deleted at *
    obtain ⟨failure | done, after⟩ := deleted
    · exact ⟨hholds, .refl _⟩
    · exact ⟨hholds, .say _ _ _⟩

/-- A sweep of a folder deletes the files of the rows that it removed. -/
theorem Service.sweep_folder {depot : Depot} {memory : Memory} (h : depot.records.Holds memory)
    (handler : LocalHandler) (size age : Int) :
    let stale := memory.removeStale (depot.site.epoch - age) size
    let after := ((sweep (.files handler) size age).run depot).2
    after.records.Holds stale.1 ∧
      after.site.files = (handler.deleteAll stale.2 depot.site.files).1 := by
  obtain ⟨swept, ⟨-, hswept⟩, hholds, hafter⟩ := sweep_after h (.files handler) size age
  refine ⟨hholds, hafter.files.trans ?_⟩
  rw [Handler.delete, LocalHandler.delete_after, hswept.files]

end MediaDepot
