import MediaDepot.Proofs.Agreement

/-!
# MediaDepot.Proofs.Revalidation

**Which tags are worth keeping.** Whoever gets a file gets its digest as a tag, and asks with that
tag later whether the file is still the same. Only a digest that is not empty is ever recognised
(`Handler.revalidates_iff_of_leadsTo`). A folder hands out no tag for a record without a digest, so
all of its tags are recognised (`LocalHandler.tag_of_answer`); a bucket sends the client to such a
file with the tag `""`, and that one never is (`Handler.tag_revalidates_iff`).
-/

namespace MediaDepot

/-! ### Headers -/

/-- What is put after headers without such a name is found in them. -/
theorem Headers.get?_append_of_none {headers : Headers} {name : String}
    (h : headers.get? name = none) (value : String) :
    Headers.get? (headers ++ [(name, value)]) name = some value := by
  have hlookup : headers.lookup name = none := (Option.or_eq_none_iff.mp h).1
  simp [get?, List.lookup_append, hlookup]

/-- The rules for other origins hand out no tag. -/
theorem CrossOrigin.tag_not_mem_negotiate {method tag : String} {headers : Headers}
    {allowed : List String} {serve : Bool} :
    ("ETag", tag) ∉ (negotiate method headers allowed serve).headers := by
  unfold negotiate
  split
  · dsimp only
    split
    · simp only [originHeader]
      split <;> simp [preflightHeaders]
    · simp only [answerHeaders]
      split <;> simp
  · simp

/-- The request again, now from a client that holds the file under a tag. -/
def FileRequest.holding (request : FileRequest) (tag : String) : FileRequest :=
  { request with headers := request.headers ++ [("If-None-Match", tag)] }

/-! ### A request that leads to a file -/

/-- What a folder answers. -/
theorem LocalHandler.outcome_of_leadsTo {handler : LocalHandler} {request : FileRequest}
    {depot : Depot} {uid : Uid} {record : Record} (hasks : Handler.AsksForFile request)
    (hleads : Handler.LeadsTo depot.records handler.config.toServeConfig request.url uid record) :
    ((handler.headers request).run depot).1 = .ok (handler.answer request (.file uid record
      (Handler.crossOrigin handler.config.toServeConfig request))) := by
  rw [run_headers_eq, Handler.opening_of_asksForFile hasks, Handler.resolve_eq_ok_iff.mpr hleads]
  rfl

/-- A bucket answers a client that holds the file, and has a URL signed for any other. -/
theorem BucketHandler.outcome_of_leadsTo {handler : BucketHandler} {request : FileRequest}
    {depot : Depot} {uid : Uid} {record : Record} (hasks : Handler.AsksForFile request)
    (hleads : Handler.LeadsTo depot.records handler.config.toServeConfig request.url uid record) :
    ((handler.headers request).run depot).1 =
      if Handler.holds record request.headers then
        .ok (Handler.notModified handler.config.toServeConfig record)
      else ((handler.redirect request uid record).run (depot.noting (Handler.openingCalls
        depot.records handler.config.toServeConfig (Text.upper request.method) request))).1 := by
  rw [run_headers_eq, Handler.opening_of_asksForFile hasks, Handler.resolve_eq_ok_iff.mpr hleads]
  simp only [Except.map, progress, if_pos hasks]
  by_cases hholds : Handler.holds record request.headers = true
  · simp only [if_pos hholds]
  · simp only [if_neg hholds]

/-! ### Tags that are handed out -/

namespace Handler

variable {request : FileRequest} {record : Record}

/-- A client that names no tag holds nothing. -/
theorem not_holds_of_none (h : request.headers.get? "If-None-Match" = none) :
    ¬ holds record request.headers = true := by
  simp [holds_iff, h]

/-- A client that names the tag of a record holds the file, if the record has a digest. -/
theorem holds_holding_iff (h : request.headers.get? "If-None-Match" = none) :
    holds record (request.holding (quotedEtag record)).headers = true ↔ record.etag ≠ "" := by
  rw [holds_iff, FileRequest.holding, Headers.get?_append_of_none h]
  exact and_iff_left rfl

/-- The request comes again with the tag, and the answer is that the file with this tag is still the
same. -/
def Revalidates (handler : Handler) (request : FileRequest) (tag : String) (depot : Depot) : Prop :=
  ∃ result, ((handler.headers (request.holding tag)).run depot).1 = .ok result ∧
    result.status = 304 ∧ ("ETag", tag) ∈ result.headers

end Handler

/-- The tag that a folder hands out is that of a record with a digest. -/
theorem LocalHandler.tag_of_answer {handler : LocalHandler} {request : FileRequest} {uid : Uid}
    {record : Record} {config : ServeConfig} {tag : String}
    (hfirst : request.headers.get? "If-None-Match" = none)
    (htag : ("ETag", tag) ∈ (handler.answer request (.file uid record
      (Handler.crossOrigin config request))).headers) :
    tag = Handler.quotedEtag record ∧ record.etag ≠ "" := by
  have hforeign : ("ETag", tag) ∉ Handler.crossOrigin config request :=
    CrossOrigin.tag_not_mem_negotiate
  simp only [answer, if_neg (Handler.not_holds_of_none hfirst)] at htag
  split at htag
  · simp [hforeign] at htag
  · next hetag => exact ⟨by simpa [hforeign] using htag, by simpa using hetag⟩

/-- A bucket that sends a client to a file hands out the tag of its record, whatever the digest
is. -/
theorem BucketHandler.tag_of_redirection {handler : BucketHandler} {record : Record} {target : Json}
    {tag : String} (h : ("ETag", tag) ∈ (handler.redirection record target).headers) :
    tag = Handler.quotedEtag record := by
  simpa [redirection] using h

namespace Handler

variable {handler : Handler} {request : FileRequest} {here later : Depot} {result : HeaderResult}
  {tag : String}

/-- What an answer tells of a request for a file: it leads to a record, and the tag is that of the
record. -/
theorem tag_of_headers (hasks : AsksForFile request)
    (hfirst : request.headers.get? "If-None-Match" = none)
    (hresult : ((handler.headers request).run here).1 = .ok result)
    (htag : ("ETag", tag) ∈ result.headers) :
    ∃ uid record, LeadsTo here.records handler.serveConfig request.url uid record ∧
      tag = quotedEtag record ∧ (handler.backend = .files → record.etag ≠ "") := by
  rcases hfound : resolve here.records handler.serveConfig request.url with
    failure | ⟨uid, record⟩
  · have hopening : opening here.records handler.serveConfig (Text.upper request.method) request =
        .error failure := by
      rw [opening_of_asksForFile hasks, hfound]
      rfl
    rw [run_headers_of_failed handler hopening] at hresult
    cases hresult
  · have hleads := resolve_eq_ok_iff.mp hfound
    refine ⟨uid, record, hleads, ?_⟩
    cases handler with
    | files handler =>
        rw [headers, LocalHandler.outcome_of_leadsTo hasks hleads] at hresult
        cases hresult
        obtain ⟨htag, hetag⟩ := LocalHandler.tag_of_answer hfirst htag
        exact ⟨htag, fun _ => hetag⟩
    | bucket handler =>
        rw [headers, BucketHandler.outcome_of_leadsTo hasks hleads,
          if_neg (not_holds_of_none hfirst)] at hresult
        obtain ⟨target, rfl⟩ := handler.eq_redirection_of_redirect request hresult
        exact ⟨BucketHandler.tag_of_redirection htag, fun h => by cases h⟩

/-! ### Tags that come back -/

variable {uid : Uid} {record : Record}

/-- A client that holds the file is told so by either handler. -/
theorem run_headers_of_holds (hasks : AsksForFile request)
    (hleads : LeadsTo here.records handler.serveConfig request.url uid record)
    (hholds : holds record request.headers = true) :
    ((handler.headers request).run here).1 = .ok (notModified handler.serveConfig record) := by
  cases handler with
  | files handler =>
      rw [headers, LocalHandler.outcome_of_leadsTo hasks hleads]
      exact congrArg Except.ok (answer_of_holds handler hholds)
  | bucket handler =>
      rw [headers, BucketHandler.outcome_of_leadsTo hasks hleads, if_pos hholds]; rfl

/-- Nobody else is told that it holds the file. -/
theorem status_of_not_holds (hasks : AsksForFile request)
    (hleads : LeadsTo here.records handler.serveConfig request.url uid record)
    (hholds : ¬ holds record request.headers = true)
    (hresult : ((handler.headers request).run here).1 = .ok result) : result.status ≠ 304 := by
  cases handler with
  | files handler =>
      rw [headers, LocalHandler.outcome_of_leadsTo hasks hleads] at hresult
      obtain ⟨headers, hanswer⟩ : ∃ headers, handler.answer request (.file uid record
          (crossOrigin handler.config.toServeConfig request)) = { headers, status := 0 } :=
        answer_of_not_holds handler hholds
      rw [hanswer] at hresult
      cases hresult
      exact (by decide : 0 ≠ 304)
  | bucket handler =>
      rw [headers, BucketHandler.outcome_of_leadsTo hasks hleads, if_neg hholds] at hresult
      obtain ⟨target, rfl⟩ := handler.eq_redirection_of_redirect request hresult
      exact (by decide : 308 ≠ 304)

/-- The tag of a record is recognised just when the record has a digest. -/
theorem revalidates_iff_of_leadsTo (hasks : AsksForFile request)
    (hfirst : request.headers.get? "If-None-Match" = none)
    (hleads : LeadsTo later.records handler.serveConfig request.url uid record) :
    Revalidates handler request (quotedEtag record) later ↔ record.etag ≠ "" := by
  have hasks' : AsksForFile (request.holding (quotedEtag record)) := hasks
  have hleads' : LeadsTo later.records handler.serveConfig
    (request.holding (quotedEtag record)).url uid record := hleads
  rw [← holds_holding_iff hfirst]
  constructor
  · rintro ⟨result, hresult, hstatus, -⟩
    by_contra hholds
    exact status_of_not_holds hasks' hleads' hholds hresult hstatus
  · intro hholds
    exact ⟨_, run_headers_of_holds hasks' hleads' hholds, rfl, List.mem_cons_self⟩

/-- **Which tags can be revalidated.** A request for a file that names no tag is answered with one;
then the request comes again with that tag, while what the store knows of the file is the same. The
tag is the quoted digest of the record that the URL leads to, and it is recognised just when that
digest is not empty. With a folder it never is empty. -/
theorem tag_revalidates_iff (handler : Handler) (request : FileRequest) {here later : Depot}
    {result : HeaderResult} {tag : String} (hasks : AsksForFile request)
    (hfirst : request.headers.get? "If-None-Match" = none)
    (hresult : ((handler.headers request).run here).1 = .ok result)
    (htag : ("ETag", tag) ∈ result.headers)
    (hsame : ∀ uid, Uid.ofUrl request.url handler.serveConfig.serveUrl = .ok uid →
      later.records.look uid.text = here.records.look uid.text) :
    ∃ uid record, LeadsTo here.records handler.serveConfig request.url uid record ∧
      tag = quotedEtag record ∧ (Revalidates handler request tag later ↔ record.etag ≠ "") ∧
      (handler.backend = .files → Revalidates handler request tag later) := by
  obtain ⟨uid, record, hleads, rfl, hfiles⟩ := tag_of_headers hasks hfirst hresult htag
  have hlater : LeadsTo later.records handler.serveConfig request.url uid record :=
    ⟨hleads.named, hleads.nonzero, (hsame uid hleads.named).trans hleads.stored⟩
  have hiff : Revalidates handler request (quotedEtag record) later ↔ record.etag ≠ "" :=
    revalidates_iff_of_leadsTo hasks hfirst hlater
  exact ⟨uid, record, hleads, rfl, hiff, fun hbackend => hiff.mpr (hfiles hbackend)⟩

/-- The tag of a picture in a bucket is still recognised after another file has been added. -/
theorem tag_revalidates_iff_of_picture :
    let handler : Handler := .bucket ⟨{ bucket := "pictures" }, true⟩
    let record : Record := { id := "BQAAAAAAAAA", mimeType := "image/png", etag := "e" }
    let request : FileRequest := ⟨"get", "/v0/file/s/BQAAAAAAAAA.png", [], true⟩
    let here : Depot := ⟨.memory ⟨[record]⟩, default⟩
    let later : Depot := ⟨.memory ⟨[{ id := "BgAAAAAAAAA", mimeType := "" }, record]⟩, default⟩
    AsksForFile request ∧ request.headers.get? "If-None-Match" = none ∧
      (∃ result, ((handler.headers request).run here).1 = .ok result ∧
        ("ETag", "\"e\"") ∈ result.headers) ∧
      (∀ uid, Uid.ofUrl request.url handler.serveConfig.serveUrl = .ok uid →
        later.records.look uid.text = here.records.look uid.text) ∧
      Revalidates handler request "\"e\"" later := by
  intro handler record request here later
  have hasks : AsksForFile request := .inl (by decide +kernel)
  have hfirst : request.headers.get? "If-None-Match" = none := rfl
  have hnamed : Uid.ofUrl request.url handler.serveConfig.serveUrl = .ok ⟨5⟩ := by decide +kernel
  have hleads : LeadsTo here.records handler.serveConfig request.url ⟨5⟩ record :=
    ⟨hnamed, by decide, rfl⟩
  have hresult : ∃ result, ((handler.headers request).run here).1 = .ok result ∧
      ("ETag", "\"e\"") ∈ result.headers := by
    rw [headers, BucketHandler.outcome_of_leadsTo hasks hleads, if_neg (not_holds_of_none hfirst),
      BucketHandler.run_redirect request rfl]
    exact ⟨_, rfl, List.mem_cons_self⟩
  have hsame : ∀ uid, Uid.ofUrl request.url handler.serveConfig.serveUrl = .ok uid →
      later.records.look uid.text = here.records.look uid.text := by
    intro uid h
    cases hnamed.symm.trans h
    rfl
  obtain ⟨result, hran, htag⟩ := hresult
  obtain ⟨uid, found, hfound, -, hiff, -⟩ :=
    tag_revalidates_iff handler request hasks hfirst hran htag hsame
  cases hnamed.symm.trans hfound.named
  cases hleads.stored.symm.trans hfound.stored
  exact ⟨hasks, hfirst, ⟨result, hran, htag⟩, hsame, hiff.mpr (by decide)⟩

/-- A picture is still on its way to a bucket. Who asks for it is sent there with the tag `""`; who
asks again with that tag, while nothing has changed, is not told that the file is the same. -/
theorem empty_tag_not_revalidated :
    let handler : Handler := .bucket ⟨{ bucket := "pictures" }, true⟩
    let record : Record := { id := "BQAAAAAAAAA", mimeType := "image/png" }
    let request : FileRequest := ⟨"GET", "/v0/file/s/BQAAAAAAAAA.png", [], true⟩
    let depot : Depot := ⟨.memory ⟨[record]⟩, default⟩
    request.headers.get? "If-None-Match" = none ∧
      (∃ result, ((handler.headers request).run depot).1 = .ok result ∧
        ("ETag", "\"\"") ∈ result.headers) ∧
      ¬ Revalidates handler request "\"\"" depot := by
  intro handler record request depot
  have hasks : AsksForFile request := .inl (by decide +kernel)
  have hfirst : request.headers.get? "If-None-Match" = none := rfl
  have hleads : LeadsTo depot.records handler.serveConfig request.url ⟨5⟩ record :=
    ⟨by decide +kernel, by decide, rfl⟩
  refine ⟨hfirst, ?_, fun h => (revalidates_iff_of_leadsTo hasks hfirst hleads).mp h rfl⟩
  rw [headers, BucketHandler.outcome_of_leadsTo hasks hleads, if_neg (not_holds_of_none hfirst),
    BucketHandler.run_redirect request rfl]
  exact ⟨_, rfl, List.mem_cons_self⟩

end Handler

end MediaDepot
