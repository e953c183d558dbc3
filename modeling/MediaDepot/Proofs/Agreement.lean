import MediaDepot.Proofs.Redirects

/-!
# MediaDepot.Proofs.Agreement

**A folder and a bucket decide alike.** Given one configuration of how files are served and one
store, a request comes to the same opening with both handlers. Each of them then asks its own
questions in its own order: a folder whether the record has a digest and whether the client holds
the file, a bucket whether the client holds the file and whether it asks for one. `Handler.Alike`
lists what may come of this for the two, side by side; they differ only in how a file that the
client does not hold gets to it.
-/

namespace MediaDepot

namespace Handler

variable (config : ServeConfig) (request : FileRequest)

/-- The headers of the answer to a request from another origin. -/
def crossOrigin : Headers :=
  (CrossOrigin.negotiate (Text.upper request.method) request.headers config.origins
    request.serve).headers

/-- The headers that tell a client that it holds the file with this digest. -/
def heldHeaders (etag : String) : Headers :=
  [("ETag", "\"" ++ etag ++ "\""), ("Cache-Control", config.cacheControl)]

/-- **What a folder and a bucket make of the same request.** -/
inductive Alike : Except Failure HeaderResult → Except Failure HeaderResult → Prop where
  /-- Both fail, and in the same way. -/
  | failed (failure : Failure) : Alike (.error failure) (.error failure)
  /-- Both answer a browser's question. -/
  | preflight (method : Text.upper request.method = "OPTIONS") :
    Alike (.ok { headers := crossOrigin config request, status := 204 })
      (.ok { headers := crossOrigin config request, status := 204 })
  /-- Both let content come. -/
  | content (method : Text.upper request.method = "POST" ∨ Text.upper request.method = "PUT") :
    Alike (.ok { headers := crossOrigin config request, status := 0 })
      (.ok { headers := crossOrigin config request, status := 0 })
  /-- Both say that the client holds the file. -/
  | notModified (etag : String) :
    Alike (.ok { headers := heldHeaders config etag, status := 304 })
      (.ok { headers := heldHeaders config etag, status := 304 })
  /-- The content is to follow from a folder, and a bucket sends the client to it. -/
  | redirected (asks : AsksForFile request) (headers headers' : Headers) (target : Json) :
    Alike (.ok { headers, status := 0 })
      (.ok { headers := headers', status := 308, target := some target })
  /-- The content is to follow from a folder, and a bucket has nothing to say to such a method. -/
  | passed (method : ¬ AsksForFile request) (headers : Headers) :
    Alike (.ok { headers, status := 0 }) (.ok { headers := [], status := 0 })

/-- The request has an answer with this status. -/
def HasStatus (outcome : Except Failure HeaderResult) (status : Nat) : Prop :=
  ∃ result, outcome = .ok result ∧ result.status = status

namespace Alike

variable {config : ServeConfig} {request : FileRequest}
  {folder bucket : Except Failure HeaderResult}

theorem notModified_iff (h : Alike config request folder bucket) :
    HasStatus bucket 304 ↔ HasStatus folder 304 := by
  cases h <;> simp [HasStatus]

theorem redirected_iff (h : Alike config request folder bucket) :
    HasStatus bucket 308 ↔ AsksForFile request ∧ HasStatus folder 0 := by
  cases h with
  | failed => simp [HasStatus]
  | preflight => simp [HasStatus]
  | content method =>
      have hnot : ¬ AsksForFile request := by
        rcases method with h | h <;> simp [AsksForFile, h]
      simp [HasStatus, hnot]
  | notModified => simp [HasStatus]
  | redirected asks => simp [HasStatus, asks]
  | passed method => simp [HasStatus, method]

end Alike

variable {config : ServeConfig} {request : FileRequest}

/-- What is answered before a handler's own part: a browser's question, or that content may come. -/
theorem alike_of_answered {records : RecordStore} {result : HeaderResult}
    (h : opening records config (Text.upper request.method) request = .ok (.answered result)) :
    Alike config request (.ok result) (.ok result) := by
  by_cases hpreflight : CrossOrigin.isPreflight (Text.upper request.method) = true
  · rw [opening_of_preflight hpreflight] at h
    cases h
    -- the method is put in capitals twice on the way to the question
    have hmethod : Text.upper request.method = "OPTIONS" := by
      simpa [CrossOrigin.isPreflight, Text.upper_upper] using hpreflight
    exact .preflight hmethod
  · simp only [opening, CrossOrigin.status_negotiate, if_neg hpreflight] at h
    split at h
    · next hcontent =>
        cases h
        have hmethod : Text.upper request.method = "POST" ∨ Text.upper request.method = "PUT" := by
          simpa [bringsContent] using hcontent
        exact .content hmethod
    · rcases hfound : resolve records config request.url with failure | ⟨uid, record⟩
      all_goals
        rw [hfound] at h
        cases h

/-- What a folder makes of a file that the client does not hold. -/
theorem answer_of_not_holds (handler : LocalHandler) {uid : Uid} {record : Record}
    {crossOrigin : Headers} (h : ¬ holds record request.headers = true) :
    ∃ headers, handler.answer request (.file uid record crossOrigin) =
      { headers, status := 0 } := by
  simp only [LocalHandler.answer, if_neg h]
  split
  · exact ⟨_, rfl⟩
  · exact ⟨_, rfl⟩

/-- What a folder makes of a file that the client holds. -/
theorem answer_of_holds (handler : LocalHandler) {uid : Uid} {record : Record}
    {crossOrigin : Headers} (h : holds record request.headers = true) :
    handler.answer request (.file uid record crossOrigin) =
      notModified handler.config.toServeConfig record := by
  have hetag : record.etag.isEmpty = false := by
    simpa using (holds_iff.mp h).1
  simp [LocalHandler.answer, hetag, h]

/-- Where no failure is laid down, a URL is signed. -/
theorem redirect_of_signs {bucket : BucketHandler} {depot : Depot}
    (hconnected : bucket.connected = true)
    (hsigns : ∀ fault, (depot.site.objects.take .sign).1 ≠ some (.fail fault))
    (request : FileRequest) (uid : Uid) (record : Record) (calls : List Call) :
    ∃ target, ((bucket.redirect request uid record).run (depot.noting calls)).1 =
      .ok (bucket.redirection record target) := by
  rw [BucketHandler.run_redirect request hconnected, Site.sign, Site.run_ask, Depot.objects_noting]
  -- whatever else is laid down, the call is answered
  rcases hnext : (depot.site.objects.take .sign).1 with _ | fault | answer | size
  case some.fail => exact absurd hnext (hsigns fault)
  all_goals exact ⟨_, rfl⟩

/-- **A folder and a bucket decide alike** if they are configured alike and share a store, and URLs
can be signed. A bucket says that the client holds the file just when a folder does, and it sends
the client to the file just when a folder goes on with a request for it. -/
theorem headers_alike (files : LocalHandler) (bucket : BucketHandler) (request : FileRequest)
    {here there : Depot} (hconfig : files.config.toServeConfig = bucket.config.toServeConfig)
    (hstore : here.records = there.records) (hconnected : bucket.connected = true)
    (hsigns : ∀ fault, (there.site.objects.take .sign).1 ≠ some (.fail fault)) :
    let fromFolder := ((files.headers request).run here).1
    let fromBucket := ((bucket.headers request).run there).1
    Alike bucket.config.toServeConfig request fromFolder fromBucket ∧
      (HasStatus fromBucket 304 ↔ HasStatus fromFolder 304) ∧
      (HasStatus fromBucket 308 ↔ AsksForFile request ∧ HasStatus fromFolder 0) := by
  intro fromFolder fromBucket
  suffices halike : Alike bucket.config.toServeConfig request fromFolder fromBucket from
    ⟨halike, halike.notModified_iff, halike.redirected_iff⟩
  simp only [fromFolder, fromBucket, LocalHandler.run_headers_eq, BucketHandler.run_headers_eq,
    hconfig, hstore]
  rcases hopening : opening there.records bucket.config.toServeConfig (Text.upper request.method)
    request with failure | result | ⟨uid, record, crossOrigin⟩
  · exact .failed failure
  · exact alike_of_answered hopening
  · -- a folder looks at the digest first, but who holds a file holds one with a digest
    simp only [Except.map, BucketHandler.progress]
    by_cases hholds : holds record request.headers = true
    · rw [answer_of_holds files hholds, if_pos hholds, hconfig]
      exact .notModified record.etag
    · obtain ⟨headers, hanswer⟩ : ∃ headers,
          files.answer request (.file uid record crossOrigin) = { headers, status := 0 } :=
        answer_of_not_holds files hholds
      rw [hanswer, if_neg hholds]
      by_cases hasks : AsksForFile request
      · rw [if_pos hasks]
        obtain ⟨target, htarget⟩ := redirect_of_signs hconnected hsigns request uid record
          (openingCalls there.records bucket.config.toServeConfig
            (Text.upper request.method) request)
        dsimp only
        rw [htarget]
        exact .redirected hasks headers _ target
      · rw [if_neg hasks]
        exact .passed hasks headers

/-- A GET for a picture that the client does not hold goes on with a folder, and a bucket sends the
client to it. -/
theorem headers_alike_of_picture :
    let files : LocalHandler := {}
    let bucket : BucketHandler := ⟨{ bucket := "pictures" }, true⟩
    let record : Record := { id := "BQAAAAAAAAA", mimeType := "image/png", etag := "e" }
    let request : FileRequest :=
  ⟨"get", "/v0/file/s/BQAAAAAAAAA.png", [("If-None-Match", "e")], true⟩
    let depot : Depot := ⟨.memory ⟨[record]⟩, default⟩
    files.config.toServeConfig = bucket.config.toServeConfig ∧ bucket.connected = true ∧
      (∀ fault, (depot.site.objects.take .sign).1 ≠ some (.fail fault)) ∧
      HasStatus ((files.headers request).run depot).1 0 ∧
      HasStatus ((bucket.headers request).run depot).1 308 := by
  intro files bucket record request depot
  have hsigns : ∀ fault, (depot.site.objects.take .sign).1 ≠ some (.fail fault) := nofun
  have hasks : AsksForFile request := .inl (by decide +kernel)
  have hleads : LeadsTo depot.records files.config.toServeConfig request.url ⟨5⟩ record :=
    ⟨by decide +kernel, by decide, rfl⟩
  have hfresh : ¬ holds record request.headers = true := by decide +kernel
  have hfolder : HasStatus ((files.headers request).run depot).1 0 := by
    rw [LocalHandler.run_headers_eq, opening_of_asksForFile hasks, resolve_eq_ok_iff.mpr hleads]
    exact ⟨_, congrArg Except.ok (answer_of_not_holds files hfresh).choose_spec, rfl⟩
  obtain ⟨-, -, hredirected⟩ := headers_alike files bucket request rfl rfl rfl hsigns
  exact ⟨rfl, rfl, hsigns, hfolder, hredirected.mpr ⟨hasks, hfolder⟩⟩

end Handler

end MediaDepot
