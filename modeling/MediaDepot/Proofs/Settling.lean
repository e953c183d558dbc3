import MediaDepot.Proofs.Objects
import MediaDepot.Proofs.Uploads

/-!
# MediaDepot.Proofs.Settling

**An upload under a fresh identifier settles its row, whatever happens on the way.** The row is
added before anything is read. If the transfer comes to its end, the row is ready, says where the
content is and counts the bytes that were read (`Handler.transfer_spec_of_ok`); if anything fails,
the row is failed and says nothing of the content, and the user learns of that failure and no other.
The rest of the store stays as it is, whatever it holds (`Service.upload_settles`).
-/

namespace MediaDepot

/-! ### Bytes read -/

namespace Handler

/-- The source when a transfer is through with it: a folder reads it in pieces of one size, an
object store in pieces of the size laid down for it. -/
def leaves (handler : Handler) (site : Site) (source : Source) : Source :=
  match handler with
  | .files _ => ((Hasher.of source).drain LocalHandler.pieceSize).2.2.counter.source
  | .bucket _ =>
    ((Counter.of source).drain (Site.pieceOf (site.objects.take .putObject).1)).2.2.source

/-- How many bytes a transfer reads from a source. -/
def bytesRead (handler : Handler) (site : Site) (source : Source) : Nat :=
  source.rest.length - (handler.leaves site source).rest.length

end Handler

/-! ### Transfers that succeed -/

/-- A file that was written was read to its end. -/
theorem LocalHandler.eq_drain_of_write {path : FilePath} {source : Source} {site : Site}
    {reader : Hasher} (h : ((write path source).run site).1 = .ok reader) :
    reader = ((Hasher.of source).drain pieceSize).2.2 := by
  rw [write, StateM.run_bind] at h
  cases hopen : ((openFile path).run site).1 with
  | error fault =>
      rw [hopen] at h
      cases h
  | ok place =>
      rw [hopen] at h
      rcases hdrain : (Hasher.of source).drain pieceSize with ⟨content, _ | fault, hasher⟩
      · simp only [hdrain] at h
        exact (Except.ok.inj h).symm
      · simp only [hdrain] at h
        cases h

/-- An object that was stored was read to its end. -/
theorem Site.eq_count_of_putObject {bucket key cacheControl contentType : String} {source : Source}
    {site : Site} {size : Nat}
    (h : ((putObject bucket key cacheControl contentType source).run site).1 = .ok size) :
    size = ((Counter.of source).drain (pieceOf (site.objects.take .putObject).1)).2.2.count := by
  rw [run_putObject] at h
  dsimp only at h
  split at h
  · cases h
  · cases h
  · exact (Except.ok.inj h).symm

namespace BucketHandler

variable {handler : BucketHandler} {record : Record} {source : Source} {site : Site}

theorem eq_count_of_putObject {size : Nat} {known : Json}
    (h : ((handler.putObject record source).run site).1 = .ok (size, known)) :
    size = ((Counter.of source).drain
      (Site.pieceOf (site.objects.take .putObject).1)).2.2.count := by
  unfold putObject at h
  split at h
  · rw [StateM.run_bind] at h
    rcases hput : ((Site.putObject handler.config.bucket record.key handler.config.cacheControl
      (contentTypeOf record) source).run site).1 with fault | stored
    · simp only [hput] at h
      cases h
    · -- the answer to the question after the object does not change the size
      simp only [hput, StateM.run_bind] at h
      have hsize : size = stored := by
        rcases hhead : ((Site.headObject handler.config.bucket record.key).run
          ((Site.putObject handler.config.bucket record.key handler.config.cacheControl
            (contentTypeOf record) source).run site).2).1 with fault | answer
        · rw [hhead] at h
          cases h
        · rw [hhead] at h
          exact (congrArg Prod.fst (Except.ok.inj h)).symm
      rw [hsize]
      exact Site.eq_count_of_putObject hput
  · cases h

end BucketHandler

namespace Handler

/-- **A transfer that succeeds** tells the record where the content is, and how many bytes it
read. -/
theorem transfer_spec_of_ok (handler : Handler) {record : Record} {source : Source} {site : Site}
    {uploaded : Uploaded}
    (h : ((handler.transfer record source).run site).1.outcome = .ok uploaded) :
    ((handler.transfer record source).run site).1.record.location = record.key ∧
      uploaded.size = handler.bytesRead site source := by
  cases handler with
  | files handler =>
      have hcount := Hasher.count_drain source LocalHandler.pieceSize
      simp only [transfer, LocalHandler.run_transfer] at h ⊢
      cases hwrite : ((LocalHandler.write (handler.root.child record.key) source).run site).1 with
      | error fault =>
          rw [hwrite] at h
          cases h
      | ok reader =>
          rw [hwrite] at h
          obtain rfl := Except.ok.inj h
          obtain rfl := LocalHandler.eq_drain_of_write hwrite
          refine ⟨rfl, ?_⟩
          simp only [bytesRead, leaves]
          omega
  | bucket handler =>
      have hcount := Counter.count_drain source (Site.pieceOf (site.objects.take .putObject).1)
      simp only [transfer, BucketHandler.transfer, StateM.run_bind] at h ⊢
      rcases hput : ((handler.putObject record source).run site).1 with fault | ⟨size, known⟩
      · simp only [hput] at h
        cases h
      · simp only [hput] at h ⊢
        cases hetag : BucketHandler.etagOf known with
        | error fault =>
            simp only [hetag] at h
            cases h
        | ok etag =>
            simp only [hetag] at h ⊢
            obtain rfl := Except.ok.inj h
            refine ⟨rfl, ?_⟩
            rw [show _ = _ from BucketHandler.eq_count_of_putObject hput]
            simp only [bytesRead, leaves]
            omega

end Handler

/-! ### The row of an upload -/

/-- The row of an upload that came to its end: it agrees with what the transfer found out and with
what the user learns. -/
structure Record.Complete (row : Record) (transfer : Transfer) (bytesRead : Nat)
    (receipt : Receipt) : Prop where
  status : row.status = .ready
  size : row.size = bytesRead
  location : row.location = (Uid.parse row.id).key
  etag : row.etag = transfer.record.etag
  shownId : receipt.id = row.id
  shownSize : receipt.size = row.size
  shownType : receipt.mimeType = row.mimeType

/-- The row of an upload that failed: it says nothing of any content. -/
structure Record.Void (row : Record) : Prop where
  status : row.status = .failed
  size : row.size = 0
  location : row.location = ""
  etag : row.etag = ""

namespace Service

variable {depot : Depot}

/-- **Every upload under a fresh identifier settles its row**, and changes nothing else in the
store. -/
theorem upload_settles {uid : Uid} {lot : Lot} (hdraw : Uid.draw depot.site.lot = (.ok uid, lot))
    (fresh : depot.records.isTaken uid.text = false) (handler : Handler) (source : Source)
    (mimeType user : Option String) :
    let transfer := ((handler.upload (newRecord uid mimeType user) source).run (drawn depot lot)).1
    let done := (upload handler source mimeType user).run depot
    ∃ row, done.2.records = depot.records.append row ∧ row.id = uid.text ∧ row.status ≠ .pending ∧
      (∀ receipt, done.1 = .ok receipt →
        row.Complete transfer (handler.bytesRead depot.site source) receipt) ∧
      ∀ failure, done.1 = .error failure → transfer.outcome = .error failure ∧ row.Void := by
  let record := entered uid mimeType user depot.site.epoch
  obtain ⟨transfer, begun, site, after, hbegun, htransfer, hmoved, hrun, -⟩ :=
    run_upload_of_not_taken hdraw fresh handler source mimeType user
  obtain ⟨location, etag, hrecord⟩ := handler.transfer_record record source begun
  have hspec (uploaded : Uploaded)
      (h : ((handler.transfer record source).run begun).1.outcome = .ok uploaded) :=
    handler.transfer_spec_of_ok h
  have hdone : (handler.transfer record source).run begun = (transfer, site) := htransfer
  rw [hdone] at hrecord hspec
  -- the objects are those of the beginning when the content is read
  have hread : handler.bytesRead begun source = handler.bytesRead depot.site source := by
    cases handler with
    | files handler => rfl
    | bucket handler =>
        simp only [Handler.bytesRead, Handler.leaves, hbegun.objects]
        rfl
  simp only [hmoved, hrun]
  refine ⟨_, rfl, Record.id_settled .., ?_, fun receipt hreceipt => ?_, fun failure hfailure => ?_⟩
  all_goals obtain ⟨moved, failed | uploaded⟩ := transfer
  · exact nofun
  · exact nofun
  · cases hreceipt
  · obtain ⟨hlocation, hsize⟩ := hspec uploaded rfl
    obtain rfl := Except.ok.inj hreceipt
    obtain rfl : moved = _ := hrecord
    exact ⟨rfl, congrArg Nat.cast (hsize.trans hread), hlocation, rfl, rfl, rfl, rfl⟩
  · obtain rfl := Except.error.inj hfailure
    exact ⟨rfl, rfl, rfl, rfl, rfl⟩
  · cases hfailure

/-- A stray document lies in the database, and the object store will not answer the question after
the first object that is stored. -/
def unanswered : Depot where
  records := .database ⟨[⟨.str "stray", []⟩]⟩
  site := { objects := { script := [(.headObject, .fail (.store .noCredentials))] } }

/-- The row of an upload whose object was stored but could not be asked after is a failed one. -/
theorem upload_settles_of_unanswered :
    Uid.draw unanswered.site.lot = (.ok ⟨1⟩, ⟨[], 2⟩) ∧
      unanswered.records.isTaken (Uid.text ⟨1⟩) = false ∧
      ∃ row, ((upload (.bucket ⟨{}, true⟩) (.ofBytes [97, 98, 99]) none none).run
          unanswered).2.records = unanswered.records.append row ∧ row.id = Uid.text ⟨1⟩ ∧
            row.Void := by
  have hdraw : Uid.draw unanswered.site.lot = (.ok ⟨1⟩, ⟨[], 2⟩) := rfl
  have hfresh : unanswered.records.isTaken (Uid.text ⟨1⟩) = false := by decide
  have hfails : ((upload (.bucket ⟨{}, true⟩) (.ofBytes [97, 98, 99]) none none).run
      unanswered).1.toOption = none := by decide +kernel
  obtain ⟨row, hrecords, hid, -, -, hfailed⟩ :=
    upload_settles hdraw hfresh (.bucket ⟨{}, true⟩) (.ofBytes [97, 98, 99]) none none
  refine ⟨hdraw, hfresh, row, hrecords, hid, ?_⟩
  rcases hdone : ((upload (.bucket ⟨{}, true⟩) (.ofBytes [97, 98, 99]) none none).run
    unanswered).1 with failure | receipt
  · exact (hfailed failure hdone).2
  · rw [hdone] at hfails
    cases hfails

end Service

end MediaDepot
