import MediaDepot.Proofs.Buckets
import MediaDepot.Proofs.Lookups
import MediaDepot.Proofs.SignedLinks
import MediaDepot.Proofs.Uploads

/-!
# MediaDepot.Proofs.BucketUploads

**An upload to a bucket accounts for every byte and touches nothing on failure.** A body is stored
as a whole or not at all (`ObjectStore.trouble?`), whatever the size of the pieces in which it is
read (`Site.run_putObject_of_pieces`). What the object store then tells of the object is known
beforehand (`ObjectStore.description`), so an upload comes to one of four ends: the row is refused,
the body is not stored, nothing is learnt of the object, or the record knows where it is
(`BucketHandler.run_transfer_eq`).
-/

namespace MediaDepot

/-! ### Texts without quotes -/

/-- **A text without the quotes around it.** -/
structure Text.Unquotes (text bare : String) : Prop where
  around : ∃ before after, text.toList = before ++ bare.toList ++ after ∧
    ∀ c ∈ before ++ after, c = '"'
  first : bare.toList.head? ≠ some '"'
  last : bare.toList.getLast? ≠ some '"'

theorem Text.unquotes_stripEnds (text : String) :
    Unquotes text (String.ofList (stripEnds (· == '"') text.toList)) := by
  obtain ⟨⟨before, after, hwhole, hquotes⟩, hfirst, hlast⟩ := stripEnds_spec (· == '"') text.toList
  refine ⟨⟨before, after, by simpa using hwhole, fun c hc => by simpa using hquotes c hc⟩, ?_, ?_⟩
  · exact fun h => absurd (hfirst '"' (by simpa using h)) (by decide)
  · exact fun h => absurd (hlast '"' (by simpa using h)) (by decide)

/-! ### Failures -/

/-- **The failure is one of the storage.** It keeps what led to it, and the code of that if there is
one. -/
def Failure.Wraps (operation key : String) (fault : Fault) (failure : Failure) : Prop :=
  ∃ error : BackendError, failure = .media (.backend error) ∧ error.operation = operation ∧
    error.key = some key ∧ error.cause = some fault ∧
    error.code = if fault.storeCode = "" then .null else .str fault.storeCode

theorem Failure.wraps_backend (operation key : String) (fault : Fault) :
    (Failure.backend operation key fault).Wraps operation key fault :=
  ⟨_, rfl, rfl, rfl, rfl, by simp [BackendError.of]⟩

/-- Is it trouble of the object store, of a transfer, or with input, output or files? -/
def Fault.isStorageTrouble : Fault → Bool
  | .store _ | .path _ _ | .io _ => true
  | _ => false

/-- **What a fault of an upload is reported as**: trouble of the storage is, and anything else stays
what it is. -/
def Failure.ReportsUpload (key : String) (fault : Fault) (failure : Failure) : Prop :=
  if fault.isStorageTrouble then failure.Wraps "upload" key fault else failure = .fault fault

theorem BucketHandler.reportsUpload_uploadFailure (key : String) (fault : Fault) :
    (uploadFailure key fault).ReportsUpload key fault := by
  cases fault with
  | store => exact Failure.wraps_backend ..
  | path => exact Failure.wraps_backend ..
  | io => exact Failure.wraps_backend ..
  | _ => rfl

/-! ### Rows that are entered -/

namespace RecordStore

variable {record : Record} {depot : Depot}

theorem start_eq_error_iff {failure : Failure} :
    ((start record).run depot).1 = .error failure ↔
      depot.records.isTaken record.id = true ∧ depot.records.refusal record.id = failure := by
  rw [run_start_eq]
  cases depot.records.isTaken record.id <;> simp

theorem start_eq_ok_iff :
    ((start record).run depot).1 = .ok ⟨⟩ ↔ depot.records.isTaken record.id = false := by
  rw [run_start_eq]
  cases depot.records.isTaken record.id <;> simp

end RecordStore

/-! ### Bodies -/

/-- Reading in pieces ends with the fault of the source, or at once if pieces of this size cannot be
asked for. Without a fault everything was read and counted. -/
theorem Counter.drain_cases (source : Source) {size : Int} (pos : 0 < size) :
    let drained := (Counter.of source).drain size
    drained.2.1 = (if source.takes (some size) then source.fault else some Source.sizeFault) ∧
      (drained.2.1 = none → drained.1 = source.rest ∧ drained.2.2.count = source.rest.length) := by
  intro drained
  by_cases htakes : source.takes (some size) = true
  · obtain ⟨hbytes, hfault, hcount⟩ := Counter.drain_of source pos htakes
    rw [if_pos htakes]
    exact ⟨hfault, fun hnone => ⟨hbytes, hcount (hfault.symm.trans hnone)⟩⟩
  · have hread : source.read (some size) = (.error Source.sizeFault, source) := by
      simp [Source.read, htakes]
    have hfault : drained.2.1 = some Source.sizeFault := by
      simp [drained, drain, drainWith, of, read, hread]
    rw [if_neg htakes, hfault]
    exact ⟨rfl, fun hnone => absurd hnone (Option.some_ne_none _)⟩

/-- What keeps the object store from having all of a source, if anything does: a failure of its own,
the size of the pieces in which it reads, or the source. -/
def ObjectStore.trouble? (store : ObjectStore) (source : Source) : Option Fault :=
  match (store.laidDown .putObject).head? with
  | some (.fail fault) => some fault
  | behaviour =>
    if source.takes (some (Site.pieceOf behaviour)) then source.fault else some Source.sizeFault

/-- A body that can be had is read to its end. -/
theorem ObjectStore.fault_eq_none_of_trouble {store : ObjectStore} {source : Source}
    (h : store.trouble? source = none) : source.fault = none := by
  unfold trouble? at h
  split at h
  · cases h
  · split at h
    · exact h
    · cases h

/-- What the object store tells of an object of itself. -/
def Site.known (body : Bytes) : Json :=
  .obj [("ETag", .str ("\"" ++ Digest.Md5.hexDigest body ++ "\""))]

/-- What the object store tells of an object, once it is stored. -/
def ObjectStore.description (store : ObjectStore) (body : Bytes) : Except Fault Json :=
  Site.answerOf (Site.known body) (store.laidDown .headObject).head?

namespace Site

/-- The pieces in which a body is read, if their size is laid down, are not empty. -/
def ReadsPieces (site : Site) : Prop :=
  ∀ size, (site.objects.laidDown .putObject).head? = some (.pieces size) → 1 ≤ size

/-- **A body is stored as a whole or not at all**, in whatever pieces it is read. -/
theorem run_putObject_of_pieces {bucket key cacheControl contentType : String} {source : Source}
    {site : Site} (h : site.ReadsPieces) :
    let call := Call.putObject bucket key cacheControl contentType
    (putObject bucket key cacheControl contentType source).run site =
      match site.objects.trouble? source with
      | some fault => (.error fault, site.called .putObject (call none))
      | none => (.ok source.rest.length,
          { site.called .putObject (call (some source.rest)) with
            objects := (site.objects.take .putObject).2.put key source.rest }) := by
  intro call
  rw [run_putObject, (site.objects.take_eq .putObject).1, ObjectStore.trouble?]
  have husual : (0 : Int) < usualPiece := by decide
  have hpos : 0 < pieceOf (site.objects.laidDown .putObject).head? := by
    rcases hlaid : (site.objects.laidDown .putObject).head? with _ | fault | answer | size
    · exact husual
    · exact husual
    · exact husual
    · exact h size hlaid
  obtain ⟨hfault, hread⟩ := Counter.drain_cases source hpos
  rcases hlaid : (site.objects.laidDown .putObject).head? with _ | fault | answer | size
  case some.fail => rfl
  all_goals
    rw [hlaid] at hfault hread
    dsimp only
    rw [← hfault]
    rcases hdrained : ((Counter.of source).drain (pieceOf _)).2.1 with _ | fault
    · obtain ⟨hbytes, hcount⟩ := hread hdrained
      rw [hbytes, hcount]
    · rfl

/-- What is told of an object is known once it is stored. -/
theorem run_headObject_of_stored {bucket key : String} {site : Site} {body : Bytes}
    (h : site.objects.objects.lookup key = some body) :
    (headObject bucket key).run site =
      (site.objects.description body, site.called .headObject (.headObject bucket key)) := by
  have hetag : site.objects.etag? key = some ("\"" ++ Digest.Md5.hexDigest body ++ "\"") := by
    rw [ObjectStore.etag?, h]
    rfl
  simp only [headObject, StateM.run_bind, StateT.run_get, pure, hetag, run_ask,
    (site.objects.take_eq .headObject).1]
  rfl

end Site

/-! ### Transfers -/

/-- **What an object store tells of an object** has fields, and its digest is a text if it is
there. -/
def DescribesObject (known : Json) : Prop :=
  ∃ fields, known = .obj fields ∧ ∀ value, Fields.get? fields "ETag" = some value →
    value = .null ∨ ∃ text, value = .str text

/-- **The digest that a record has** when the object store told this of the object: the one that was
told, without its quotes, or the one from before if none was told. -/
structure LearnsEtag (known : Json) (before after : String) : Prop where
  told : ∀ text, known.get? "ETag" = some (.str text) → text ≠ "" → Text.Unquotes text after
  untold : (∀ text, known.get? "ETag" = some (.str text) → text = "") → after = before

namespace BucketHandler

theorem etagOf_of_describesObject {known : Json} (h : DescribesObject known) :
    ∃ etag, etagOf known = .ok etag ∧ ∀ before, LearnsEtag known before (etag.getD before) := by
  obtain ⟨fields, rfl, hfields⟩ := h
  rcases hetag : Fields.get? fields "ETag" with _ | value
  · exact ⟨none, by simp [etagOf, hetag], fun before => ⟨by simp [Json.get?, hetag], fun _ => rfl⟩⟩
  · rcases hfields value hetag with rfl | ⟨text, rfl⟩
    · exact ⟨none, by simp [etagOf, hetag, Json.isTruthy],
        fun before => ⟨by simp [Json.get?, hetag], fun _ => rfl⟩⟩
    · by_cases hempty : text = ""
      · exact ⟨none, by simp [etagOf, hetag, hempty],
          fun before => ⟨by simp [Json.get?, hetag, hempty], fun _ => rfl⟩⟩
      · refine ⟨some (String.ofList (Text.stripEnds (· == '"') text.toList)),
          by simp [etagOf, hetag, hempty], fun before => ⟨?_, fun hnone => ?_⟩⟩
        · intro other hother _
          obtain rfl : text = other := by simpa [Json.get?, hetag] using hother
          exact Text.unquotes_stripEnds text
        · exact absurd (hnone text hetag) hempty

variable (handler : BucketHandler) (record : Record)

/-- The call that stores the content of a file. -/
def putCall (body : Option Bytes) : Call :=
  .putObject handler.config.bucket record.key handler.config.cacheControl
    (contentTypeOf record) body

/-- The call that asks what is known of the content of a file. -/
def headCall : Call := .headObject handler.config.bucket record.key

@[simp] theorem isToObjectStore_putCall (body : Option Bytes) :
    (handler.putCall record body).isToObjectStore = true := rfl

@[simp] theorem isToObjectStore_headCall : (handler.headCall record).isToObjectStore = true := rfl

/-- The site after the content of a file was stored. -/
def storedAt (site : Site) (body : Bytes) : Site :=
  { site.called .putObject (handler.putCall record (some body)) with
    objects := (site.objects.take .putObject).2.put record.key body }

/-- An object that was stored is asked after, and storing it takes nothing of what is laid down for
that. -/
theorem run_headObject_storedAt (site : Site) (body : Bytes) :
    (Site.headObject handler.config.bucket record.key).run (handler.storedAt record site body) =
      (site.objects.description body,
        (handler.storedAt record site body).called .headObject (handler.headCall record)) := by
  have hlookup : (handler.storedAt record site body).objects.objects.lookup record.key =
      some body := by
    simp [storedAt, ObjectStore.lookup_put]
  have hlaid : (handler.storedAt record site body).objects.laidDown .headObject =
      site.objects.laidDown .headObject := site.objects.laidDown_take_of_ne (by decide)
  rw [Site.run_headObject_of_stored hlookup, ObjectStore.description, hlaid]
  rfl

variable {handler record}

/-- The content of a file is stored as a whole, and then the object store is asked what it knows of
it. -/
theorem run_putObject_eq (connected : handler.connected = true) {source : Source} {site : Site}
    (h : site.ReadsPieces) :
    (handler.putObject record source).run site =
      match site.objects.trouble? source with
      | some fault => (.error fault, site.called .putObject (handler.putCall record none))
      | none => ((site.objects.description source.rest).map (source.rest.length, ·),
          (handler.storedAt record site source.rest).called .headObject
            (handler.headCall record)) := by
  have hput : (Site.putObject handler.config.bucket record.key handler.config.cacheControl
      (contentTypeOf record) source).run site =
        match site.objects.trouble? source with
        | some fault => (.error fault, site.called .putObject (handler.putCall record none))
        | none => (.ok source.rest.length, handler.storedAt record site source.rest) :=
    Site.run_putObject_of_pieces h
  rw [putObject, if_pos connected, StateM.run_bind, hput]
  rcases site.objects.trouble? source with _ | fault
  · dsimp only
    rw [StateM.run_bind, run_headObject_storedAt]
    rfl
  · rfl

/-- **A transfer to a bucket**: the body is not stored, or nothing is learnt of the object, or the
record knows where it is. -/
theorem run_transfer_eq (connected : handler.connected = true) {source : Source} {site : Site}
    (h : site.ReadsPieces) :
    (handler.transfer record source).run site =
      match site.objects.trouble? source with
      | some fault => (⟨record, .error (uploadFailure record.key fault)⟩,
          site.called .putObject (handler.putCall record none))
      | none =>
        (match site.objects.description source.rest with
          | .error fault => ⟨record, .error (uploadFailure record.key fault)⟩
          | .ok known =>
            match etagOf known with
            | .error fault => ⟨{ record with location := record.key }, .error (.fault fault)⟩
            | .ok etag =>
              ⟨{ record with location := record.key, etag := etag.getD record.etag },
                .ok ⟨Handler.urlOf handler.config.toServeConfig record, source.rest.length⟩⟩,
          (handler.storedAt record site source.rest).called .headObject
            (handler.headCall record)) := by
  rw [transfer, StateM.run_bind, run_putObject_eq connected h]
  rcases site.objects.trouble? source with _ | fault
  · rcases site.objects.description source.rest with fault | known
    · rfl
    · dsimp only [Except.map]
      rcases etagOf known with fault | etag <;> rfl
  · rfl

end BucketHandler

/-! ### Uploads -/

/-- The calls to the object store between two states of a depot. -/
def Depot.storeCalls (before after : Depot) : List Call :=
  (after.site.calls.drop before.site.calls.length).filter Call.isToObjectStore

/-- Entering a row calls the database at most, so what is called of the object store comes after
it. -/
theorem Depot.storeCalls_of_insertions {depot after : Depot} (row : Record) {made : List Call}
    (h : after.site.calls = depot.site.calls ++ depot.records.insertions row ++ made)
    (hmade : ∀ call ∈ made, call.isToObjectStore = true) : depot.storeCalls after = made := by
  have hinsertions : (depot.records.insertions row).filter Call.isToObjectStore = [] := by
    cases depot.records <;> rfl
  rw [storeCalls, h, List.append_assoc, List.drop_left, List.filter_append, hinsertions,
    List.nil_append, List.filter_eq_self.mpr hmade]

namespace BucketHandler

variable {handler : BucketHandler} {record : Record} {source : Source} {depot : Depot}

/-- **A row that is refused** ends an upload before anything is asked of the object store. -/
theorem upload_of_refused (taken : depot.records.isTaken record.id = true) :
    let begun := record.begun depot.site.epoch
    let done := ((Handler.bucket handler).upload record source).run depot
    done.1 = ⟨begun, .error (depot.records.refusal record.id)⟩ ∧ done.2.records = depot.records ∧
      done.2.site.objects = depot.site.objects ∧ depot.storeCalls done.2 = [] := by
  intro begun done
  obtain ⟨log, hrun⟩ := (Handler.bucket handler).run_upload_eq record source depot
  rw [if_pos taken] at hrun
  have hcalls : depot.storeCalls done.2 = [] :=
    Depot.storeCalls_of_insertions begun
      (by simp only [done, hrun, List.append_nil, Depot.calls_noting]; rfl) nofun
  refine ⟨?_, ?_, ?_, hcalls⟩
  all_goals
    simp only [done, hrun]
    rfl

/-- **An upload whose row is entered** asks the object store to store the content, and if it has
that, what it knows of it. -/
theorem upload_of_free (connected : handler.connected = true) (pieces : depot.site.ReadsPieces)
    (free : depot.records.isTaken record.id = false) :
    let begun := record.begun depot.site.epoch
    let done := ((Handler.bucket handler).upload record source).run depot
    done.2.records = depot.records.append begun ∧
      match depot.site.objects.trouble? source with
      | some fault =>
        done.1 = ⟨begun, .error (uploadFailure record.key fault)⟩ ∧
          done.2.site.objects.objects = depot.site.objects.objects ∧
          depot.storeCalls done.2 = [handler.putCall record none]
      | none =>
        done.1 = (match depot.site.objects.description source.rest with
          | .error fault => ⟨begun, .error (uploadFailure record.key fault)⟩
          | .ok known =>
            match etagOf known with
            | .error fault => ⟨{ begun with location := record.key }, .error (.fault fault)⟩
            | .ok etag =>
              ⟨{ begun with location := record.key, etag := etag.getD record.etag },
                .ok ⟨handler.config.serveUrl ++ record.fileName, source.rest.length⟩⟩) ∧
          done.2.site.objects.objects.lookup record.key = some source.rest ∧
          depot.storeCalls done.2 =
            [handler.putCall record (some source.rest), handler.headCall record] := by
  intro begun done
  let noted := depot.noting (depot.records.insertions begun)
  obtain ⟨log, hrun⟩ := (Handler.bucket handler).run_upload_eq record source depot
  rw [if_neg (Bool.eq_false_iff.mp free)] at hrun
  have htransfer : (handler.transfer begun source).run noted.site = _ :=
    run_transfer_eq connected pieces
  rw [show noted.site.objects = depot.site.objects from rfl] at htransfer
  rcases htrouble : depot.site.objects.trouble? source with _ | fault
  all_goals
    rw [htrouble] at htransfer
    have hdone : done = (_, ⟨depot.records.append begun, _⟩) := hrun.trans
      (congrArg (fun moved : Transfer × Site =>
        (moved.1, (⟨depot.records.append begun, moved.2⟩ : Depot))) htransfer)
    rw [hdone]
    refine ⟨rfl, rfl, ?_, ?_⟩
  · exact (ObjectStore.lookup_put _ record.key source.rest record.key).trans (if_pos rfl)
  · exact Depot.storeCalls_of_insertions begun (List.append_assoc _ [_] [_]) (by simp)
  · rfl
  · exact Depot.storeCalls_of_insertions begun rfl (by simp)

/-- **An upload to a bucket accounts for every byte and touches nothing on failure.** If its row is
refused, nothing is asked of the object store. Otherwise the content is stored as a whole or not at
all, in whatever pieces it is read; only if it is stored, the object store is asked what it knows of
it; and only if that is answered, the record learns where it is and its digest. -/
theorem upload_accounts (handler : BucketHandler) (connected : handler.connected = true)
    (record : Record) (source : Source) {depot : Depot} (pieces : depot.site.ReadsPieces)
    (described : ∀ known, depot.site.objects.description source.rest = .ok known →
      DescribesObject known) :
    let begun := record.begun depot.site.epoch
    let entered := ((RecordStore.start begun).run depot).1
    let done := ((Handler.bucket handler).upload record source).run depot
    (begun.status = .pending ∧ begun.location = record.location ∧ begun.etag = record.etag) ∧
      (∀ failure, entered = .error failure → done.1 = ⟨begun, .error failure⟩ ∧
        done.2.records = depot.records ∧ done.2.site.objects = depot.site.objects ∧
          depot.storeCalls done.2 = []) ∧
      (entered = .ok ⟨⟩ → done.2.records = depot.records.append begun ∧
        done.2.records.look record.id = .ok (some begun) ∧
        (∀ fault, depot.site.objects.trouble? source = some fault →
          done.1.record = begun ∧ done.2.site.objects.objects = depot.site.objects.objects ∧
            depot.storeCalls done.2 = [handler.putCall record none] ∧
            ∃ failure, done.1.outcome = .error failure ∧ failure.ReportsUpload record.key fault) ∧
        (depot.site.objects.trouble? source = none → source.fault = none ∧
          done.2.site.objects.objects.lookup record.key = some source.rest ∧
          depot.storeCalls done.2 =
            [handler.putCall record (some source.rest), handler.headCall record] ∧
          (∀ fault, depot.site.objects.description source.rest = .error fault →
            done.1.record = begun ∧
              ∃ failure, done.1.outcome = .error failure ∧ failure.ReportsUpload record.key fault) ∧
          ∀ known, depot.site.objects.description source.rest = .ok known → ∃ etag,
            LearnsEtag known record.etag etag ∧
              done.1.record = { begun with location := record.key, etag } ∧
              done.1.outcome =
                .ok ⟨handler.config.serveUrl ++ record.fileName, source.rest.length⟩)) := by
  intro begun entered done
  refine ⟨⟨rfl, rfl, rfl⟩, fun failure hrefused => ?_, fun hentered => ?_⟩
  · obtain ⟨htaken, rfl⟩ := RecordStore.start_eq_error_iff.mp hrefused
    exact upload_of_refused htaken
  · have free : depot.records.isTaken begun.id = false := RecordStore.start_eq_ok_iff.mp hentered
    change depot.records.isTaken record.id = false at free
    obtain ⟨hrecords, hend⟩ := @upload_of_free handler record source depot connected pieces free
    refine ⟨hrecords, ?_, fun fault htrouble => ?_, fun hstored => ?_⟩
    · rw [show done.2.records = _ from hrecords]
      exact RecordStore.look_append free
    · rw [htrouble] at hend
      obtain ⟨hdone, hobjects, hcalls⟩ := hend
      rw [show done.1 = _ from hdone]
      exact ⟨rfl, hobjects, hcalls, _, rfl, reportsUpload_uploadFailure _ fault⟩
    · rw [hstored] at hend
      obtain ⟨hdone, hobject, hcalls⟩ := hend
      refine ⟨ObjectStore.fault_eq_none_of_trouble hstored, hobject, hcalls, fun fault hfault => ?_,
        fun known hknown => ?_⟩
      · rw [hfault] at hdone
        rw [show done.1 = _ from hdone]
        exact ⟨rfl, _, rfl, reportsUpload_uploadFailure _ fault⟩
      · obtain ⟨etag, hetag, hlearns⟩ := etagOf_of_describesObject (described known hknown)
        rw [hknown] at hdone
        simp only [hetag] at hdone
        rw [show done.1 = _ from hdone]
        exact ⟨_, hlearns record.etag, rfl, rfl⟩

/-- A bucket whose object store will do this at the next calls. -/
def scripted (script : List (Operation × Behaviour)) : Depot :=
  ⟨.memory {}, { objects := { script } }⟩

/-- What an object store says that refuses to tell anything of an object. -/
def denial : Fault := .store (.refused (.obj [("Error", .obj [("Code", .str "403")])]) "HeadObject")

/-- Three bytes are read in pieces of two, and their digest is told; then the same upload where
nothing is told of the object. -/
theorem upload_accounts_of_three_bytes :
    let handler : BucketHandler := ⟨{ bucket := "pictures" }, true⟩
    let record : Record := { id := "BQAAAAAAAAA", mimeType := "image/png" }
    let told := scripted [(.putObject, .pieces 2),
      (.headObject, .reply (.obj [("ETag", .str "\"9b\"")]))]
    let denied := scripted [(.putObject, .pieces 2), (.headObject, .fail denial)]
    let upload (depot : Depot) :=
      ((Handler.bucket handler).upload record (.ofBytes [97, 98, 99])).run depot
    told.site.ReadsPieces ∧ denied.site.ReadsPieces ∧
      (upload told).1.outcome = .ok ⟨"/v0/file/s/BQAAAAAAAAA.png", 3⟩ ∧
      (upload told).2.site.objects.objects.lookup record.key = some [97, 98, 99] ∧
      Text.Unquotes "\"9b\"" (upload told).1.record.etag ∧
      (upload denied).1.record.location = "" ∧
      ∃ failure, (upload denied).1.outcome = .error failure ∧
        failure.Wraps "upload" record.key denial := by
  intro handler record told denied upload
  have hpieces : told.site.ReadsPieces ∧ denied.site.ReadsPieces := by
    constructor <;> rintro size ⟨⟩ <;> decide
  have htold : told.site.objects.description [97, 98, 99] = .ok (.obj [("ETag", .str "\"9b\"")]) :=
    rfl
  have hdenied : denied.site.objects.description [97, 98, 99] = .error denial := rfl
  have hname : handler.config.serveUrl ++ record.fileName = "/v0/file/s/BQAAAAAAAAA.png" := by
    decide +kernel
  have hdescribes : ∀ known, told.site.objects.description [97, 98, 99] = .ok known →
      DescribesObject known := by
    intro known hknown
    obtain rfl := Except.ok.inj (htold.symm.trans hknown)
    exact ⟨_, rfl, fun value hvalue => .inr ⟨"\"9b\"", (Option.some.inj hvalue).symm⟩⟩
  obtain ⟨-, -, hentered⟩ :=
    upload_accounts handler rfl record (.ofBytes [97, 98, 99]) hpieces.1 hdescribes
  obtain ⟨-, -, -, hstored⟩ := hentered rfl
  obtain ⟨-, hobject, -, -, hlearns⟩ := hstored rfl
  obtain ⟨etag, ⟨hetag, -⟩, hrecord, houtcome⟩ := hlearns _ htold
  obtain ⟨-, -, hentered'⟩ := upload_accounts handler rfl record (.ofBytes [97, 98, 99]) hpieces.2
    fun known hknown => nomatch hdenied.symm.trans hknown
  obtain ⟨-, -, -, hstored'⟩ := hentered' rfl
  obtain ⟨-, -, -, hunknown, -⟩ := hstored' rfl
  obtain ⟨hleft, failure, hfailure, hreports⟩ := hunknown denial hdenied
  rw [hname] at houtcome
  refine ⟨hpieces.1, hpieces.2, houtcome, hobject, ?_, ?_, failure, hfailure, hreports⟩
  · rw [show (upload told).1.record = _ from hrecord]
    exact hetag _ rfl (by decide)
  · exact congrArg Record.location hleft

end BucketHandler

end MediaDepot
