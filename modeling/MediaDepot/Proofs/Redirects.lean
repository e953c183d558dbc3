import MediaDepot.Proofs.Lookups
import MediaDepot.Proofs.Objects

/-!
# MediaDepot.Proofs.Redirects

**What a bucket makes of a request.** What is opened is answered at once, unless the client asks for
the file and does not hold it already: then a URL is signed, and the client is sent there
(`BucketHandler.run_headers_eq`). `BucketHandler.Redirects` says when that is, and
`progress_eq_unsigned_iff` that it is then and only then. What the signed URL says depends on the
values of a `Signing`.
-/

namespace MediaDepot

/-- What a signed URL depends on. -/
structure Signing where
  method : String
  bucket : String
  key : String
  cacheControl : String
  mimeType : String
  seconds : Int
  /-- Is the file to be saved instead of shown? -/
  attachment : Bool
  deriving DecidableEq

namespace Signing

/-- The headers that the object store is told to answer with. -/
def overrides (signing : Signing) : List (String × String) :=
  [("ResponseCacheControl", signing.cacheControl)]
    ++ (if signing.mimeType.isEmpty then [] else [("ResponseContentType", signing.mimeType)])
    ++ (if signing.attachment then [("ResponseContentDisposition", "attachment")] else [])

/-- The signed URL. -/
def link (signing : Signing) : Link where
  operation := if signing.method = "GET" then "get_object" else "head_object"
  method := signing.method
  bucket := signing.bucket
  key := signing.key
  overrides := if signing.method = "GET" then signing.overrides else []
  seconds := signing.seconds

end Signing

theorem Handler.holds_iff {record : Record} {headers : Headers} :
    holds record headers = true ↔
      record.etag ≠ "" ∧ headers.get? "If-None-Match" = some ("\"" ++ record.etag ++ "\"") := by
  simp [holds, quotedEtag]

namespace BucketHandler

variable (handler : BucketHandler) (request : FileRequest)

/-- How far the answer to a request gets without the object store. -/
inductive Progress where
  | complete (result : HeaderResult)
  /-- A URL of the file is still to be signed. -/
  | unsigned (uid : Uid) (record : Record)

/-- What is opened is answered, or a URL of the file is to be signed. -/
def progress : Handler.Opening → Progress
  | .answered result => .complete result
  | .file uid record _ =>
    if Handler.holds record request.headers then
      .complete (Handler.notModified handler.config.toServeConfig record)
    else if Handler.AsksForFile request then .unsigned uid record
    else .complete {}

/-- What the signed URL of a file depends on. -/
def signing (uid : Uid) (record : Record) : Signing where
  method := Text.upper request.method
  bucket := handler.config.bucket
  key := uid.key
  cacheControl := handler.config.cacheControl
  mimeType := record.mimeType
  seconds := handler.config.linkSeconds
  attachment := Text.upper request.method == "GET" && asksForAttachment request.url

/-- Has a URL signed. -/
def signed (key : String) (link : Link) : Action Json :=
  handler.withClient "generate_presigned_url" (Action.ask (.ofCall "presign" key) (Site.sign link))

/-- The answer that sends the client to a signed URL. -/
def redirection (record : Record) (target : Json) : HeaderResult where
  headers := [("ETag", Handler.quotedEtag record), ("Content-Type", redirectType),
    ("Cache-Control", handler.config.cacheControl)]
  status := 308
  target := some target

/-- Sends the client to a signed URL of a file. -/
def redirect (uid : Uid) (record : Record) : Action HeaderResult := do
  return handler.redirection record
    (← handler.signed uid.key (handler.signing request uid record).link)

/-- A request looks a file up, and then makes the progress that can be made with what was opened. -/
theorem run_headers_eq (depot : Depot) :
    let config := handler.config.toServeConfig
    let method := Text.upper request.method
    let asked := depot.noting (Handler.openingCalls depot.records config method request)
    (handler.headers request).run depot =
      match (Handler.opening depot.records config method request).map
        (handler.progress request) with
      | .error failure => (.error failure, asked)
      | .ok (.complete result) => (.ok result, asked)
      | .ok (.unsigned uid record) => (handler.redirect request uid record).run asked := by
  intro config method asked
  simp only [headers, Action.run_bind, Handler.run_start_eq]
  rcases Handler.opening depot.records config method request with
    failure | result | ⟨uid, record, crossOrigin⟩
  · rfl
  · rfl
  · simp only [Except.map, progress]
    split
    · rfl
    · -- the method is asked for the other way round here
      by_cases hasks : Handler.AsksForFile request
      · rw [if_pos hasks, if_neg fun h => hasks.elim h.1 h.2]
        rfl
      · rw [if_neg hasks, if_pos (not_or.mp hasks)]
        rfl

/-- Nothing but a redirection comes out of signing a URL. -/
theorem eq_redirection_of_redirect {uid : Uid} {record : Record} {depot : Depot}
    {result : HeaderResult}
    (h : ((handler.redirect request uid record).run depot).1 = .ok result) :
    ∃ target, result = handler.redirection record target := by
  rw [redirect, Action.run_bind] at h
  rcases hsigned : (handler.signed uid.key (handler.signing request uid record).link).run depot with
    ⟨failure | target, after⟩
  all_goals rw [hsigned] at h
  · cases h
  · exact ⟨target, (Except.ok.inj h).symm⟩

/-- A client is there: the call is made, and what comes out depends on the answer. -/
theorem run_redirect {handler : BucketHandler} (h : handler.connected = true) (uid : Uid)
    (record : Record) (depot : Depot) :
    let link := (handler.signing request uid record).link
    (handler.redirect request uid record).run depot =
      ((((Site.sign link).run depot.site).1.mapError (.ofCall "presign" uid.key)).map
          (handler.redirection record),
        { depot with site := depot.site.called .sign (.sign link) }) := by
  intro link
  simp only [redirect, signed, withClient, h, if_true, Action.run_bind, Action.run_ask, Site.sign,
    Site.run_ask]
  rcases Site.answerOf _ (depot.site.objects.take .sign).1 with fault | target <;> rfl

/-- **The client is sent to the file**: it asks for a file that is there, and it does not hold that
already. -/
structure Redirects (handler : BucketHandler) (records : RecordStore) (request : FileRequest)
    (uid : Uid) (record : Record) : Prop where
  asks : Handler.AsksForFile request
  leads : Handler.LeadsTo records handler.config.toServeConfig request.url uid record
  fresh : ¬ (record.etag ≠ "" ∧
    request.headers.get? "If-None-Match" = some ("\"" ++ record.etag ++ "\""))

variable {handler request} {records : RecordStore} {uid : Uid} {record : Record}

/-- A URL of a file is signed just when the client is sent to it. -/
theorem progress_eq_unsigned_iff :
    (Handler.opening records handler.config.toServeConfig (Text.upper request.method) request).map
        (handler.progress request) = .ok (.unsigned uid record) ↔
      handler.Redirects records request uid record := by
  constructor
  · intro h
    rcases hopening : Handler.opening records handler.config.toServeConfig
      (Text.upper request.method) request with failure | result | ⟨found, row, crossOrigin⟩
    all_goals rw [hopening] at h
    · cases h
    · cases h
    · simp only [Except.map, progress, Except.ok.injEq] at h
      split at h
      · cases h
      · next hfresh =>
          split at h
          · next hasks =>
              cases h
              exact ⟨hasks, Handler.leadsTo_of_opening hopening, Handler.holds_iff.not.mp hfresh⟩
          · cases h
  · rintro ⟨hasks, hleads, hfresh⟩
    rw [Handler.opening_of_asksForFile hasks, Handler.resolve_eq_ok_iff.mpr hleads]
    simp only [Except.map, progress, if_neg (Handler.holds_iff.not.mpr hfresh), if_pos hasks]

end BucketHandler

end MediaDepot
