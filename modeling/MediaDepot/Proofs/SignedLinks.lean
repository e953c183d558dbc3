import MediaDepot.Http.App
import MediaDepot.Proofs.Redirects

/-!
# MediaDepot.Proofs.SignedLinks

**What a client can do to the URLs that are signed for it.** A bucket sends a client to a signed URL
just when the client asks for a file that is there and that it does not hold already (`Redirects`).
One call is made then, and none otherwise. What the call says is a function of a few values
(`Signing`), of which the client chooses two beside the file: the method, and whether the file is to
be saved instead of shown. The second is read off the first value of one name in the query
(`Query.WantsAttachment`); the rest of the query, the headers and the host do not matter.

Since every such request is answered completely, the route that serves files never downloads one
from a bucket (`Http.App.serveOr_eq`).
-/

namespace MediaDepot

/-! ### Queries -/

namespace Query

/-- The piece of a query gives the name this value, which is not empty as it is written. -/
def Gives (piece : List Char) (name value : String) : Prop :=
  ∃ rawName rawValue, piece = rawName ++ '=' :: rawValue ∧ '=' ∉ rawName ∧ rawValue ≠ [] ∧
    decode rawName = name ∧ decode rawValue = value

/-- **The first value that a query gives a name.** -/
def IsFirst (query : List Char) (name value : String) : Prop :=
  ∃ before piece after, Text.pieces '&' query = before ++ piece :: after ∧ Gives piece name value ∧
    ∀ earlier ∈ before, ∀ other, ¬ Gives earlier name other

theorem field?_eq_some_iff {piece : List Char} {name value : String} :
    field? piece = some (name, value) ↔ Gives piece name value := by
  constructor
  · intro h
    have hwhole := Text.cut_eq '=' piece
    have hname := Text.not_mem_cut_fst '=' piece
    unfold field? at h
    split at h
    · next rawName c rawValue hcut =>
        rw [hcut] at hwhole hname
        obtain ⟨rfl, rfl⟩ := Prod.mk.inj (Option.some.inj h)
        exact ⟨rawName, c :: rawValue, hwhole, hname, List.cons_ne_nil c rawValue, rfl, rfl⟩
    · cases h
  · rintro ⟨rawName, rawValue, rfl, hname, hvalue, rfl, rfl⟩
    obtain ⟨c, rest, rfl⟩ := List.exists_cons_of_ne_nil hvalue
    simp [field?, Text.cut_append hname]

theorem lookup_fields_eq_some_iff {query : List Char} {name value : String} :
    (fields query).lookup name = some value ↔ IsFirst query name value := by
  rw [fields, List.lookup_eq_some_iff]
  constructor
  · rintro ⟨given, rest, hfields, hgiven⟩
    obtain ⟨front, back, hpieces, hfront, hback⟩ := List.filterMap_eq_append_iff.mp hfields
    obtain ⟨skipped, piece, after, rfl, hskipped, hpiece, -⟩ := List.filterMap_eq_cons_iff.mp hback
    refine ⟨front ++ skipped, piece, after, by rw [hpieces, List.append_assoc],
      field?_eq_some_iff.mp hpiece, fun earlier hearlier other hother => ?_⟩
    have hfield := field?_eq_some_iff.mpr hother
    rcases List.mem_append.mp hearlier with hmem | hmem
    · -- a field in front with this name would have been found before
      have hlist : (name, other) ∈ given := by
        rw [← hfront]
        exact List.mem_filterMap.mpr ⟨earlier, hmem, hfield⟩
      exact absurd rfl (bne_iff_ne.mp (hgiven _ hlist))
    · rw [hskipped earlier hmem] at hfield
      cases hfield
  · -- pieces without a value are no fields, and do not come between
    rintro ⟨before, piece, after, hpieces, hgives, hbefore⟩
    refine ⟨before.filterMap field?, after.filterMap field?, ?_, fun field hfield => ?_⟩
    · rw [hpieces, List.filterMap_append, List.filterMap_cons, field?_eq_some_iff.mpr hgives]
    · obtain ⟨earlier, hmem, hearlier⟩ := List.mem_filterMap.mp hfield
      refine bne_iff_ne.mpr ?_
      rintro rfl
      exact hbefore earlier hmem field.2 (field?_eq_some_iff.mp hearlier)

/-- **The client wants to save the file**: the first value of `asatt` in the query of the URL says
yes. -/
def WantsAttachment (url : String) : Prop :=
  ∃ parts, Url.split url = .ok parts ∧ ∃ value, IsFirst parts.query "asatt" value ∧
    Text.lower (Text.trim value) ∈ ["1", "t", "true"]

end Query

theorem BucketHandler.asksForAttachment_iff {url : String} :
    asksForAttachment url = true ↔ Query.WantsAttachment url := by
  unfold asksForAttachment Query.WantsAttachment Query.value?
  cases Url.split url with
  | error fault => simp [Except.map]
  | ok parts =>
      simp only [Except.map, Except.ok.injEq, exists_eq_left', attachmentField, Query.isTrue,
        ← Query.lookup_fields_eq_some_iff]
      cases (Query.fields parts.query).lookup "asatt" with
      | none =>
          -- an absent value counts as empty, which does not say yes
          simp only [reduceCtorEq, false_and, exists_false, iff_false]
          decide
      | some value => simp [Query.trueWords]

/-! ### Calls to the object store -/

/-- Does the call go to the object store? -/
def Call.isToObjectStore : Call → Bool
  | .connect _ | .headBucket _ | .createBucket _ _ | .allowOrigins _ _ | .sign _
  | .putObject _ _ _ _ _ | .headObject _ _ | .deleteObjects _ _ => true
  | _ => false

/-- The calls to the object store that work makes. -/
def Action.storeCalls {α : Type} (work : Action α) (depot : Depot) : List Call :=
  ((work.run depot).2.site.calls.drop depot.site.calls.length).filter Call.isToObjectStore

theorem Action.storeCalls_eq {α : Type} {work : Action α} {depot : Depot} {made : List Call}
    (h : (work.run depot).2.site.calls = depot.site.calls ++ made) :
    work.storeCalls depot = made.filter Call.isToObjectStore := by
  rw [storeCalls, h, List.drop_left]

/-- Looking up a file makes no call to the object store. -/
theorem Handler.filter_openingCalls (records : RecordStore) (config : ServeConfig) (method : String)
    (request : FileRequest) :
    (openingCalls records config method request).filter Call.isToObjectStore = [] := by
  refine List.filter_eq_nil_iff.mpr fun call hcall => ?_
  obtain ⟨id, rfl⟩ := mem_openingCalls hcall
  exact Bool.false_ne_true

/-- The route that serves files takes requests for files, and questions of browsers. -/
theorem Handler.asksForFile_or_isPreflight {request : FileRequest}
    (hmethod : request.method ∈ Http.Route.serve.methods) :
    AsksForFile request ∨ CrossOrigin.isPreflight (Text.upper request.method) = true := by
  simp only [Http.Route.methods, List.mem_cons, List.not_mem_nil, or_false] at hmethod
  rcases hmethod with h | h | h <;> rw [AsksForFile, h] <;> decide

/-! ### Redirections -/

namespace BucketHandler

variable {handler : BucketHandler} {request : FileRequest} {depot : Depot} {uid : Uid}
  {record : Record}

/-- Nothing is asked of the object store unless the client is sent to a file. -/
theorem storeCalls_of_not_redirects
    (h : ¬ ∃ uid record, handler.Redirects depot.records request uid record) :
    (handler.headers request).storeCalls depot = [] := by
  have hcalls : ((handler.headers request).run depot).2 =
      depot.noting (Handler.openingCalls depot.records handler.config.toServeConfig
        (Text.upper request.method) request) := by
    rw [run_headers_eq]
    rcases hprogress : (Handler.opening depot.records handler.config.toServeConfig
      (Text.upper request.method) request).map (handler.progress request) with
      failure | result | ⟨uid, record⟩
    · rfl
    · rfl
    · exact absurd ⟨uid, record, progress_eq_unsigned_iff.mp hprogress⟩ h
  rw [Action.storeCalls_eq (congrArg (·.site.calls) hcalls), Handler.filter_openingCalls]

/-- A request that is sent to a file comes to the signing of its URL. -/
theorem run_headers_of_redirects (hconnected : handler.connected = true)
    (h : handler.Redirects depot.records request uid record) :
    let link := (handler.signing request uid record).link
    let asked := depot.noting (Handler.openingCalls depot.records handler.config.toServeConfig
      (Text.upper request.method) request)
    (handler.headers request).run depot =
      ((((Site.sign link).run depot.site).1.mapError (.ofCall "presign" uid.key)).map
          (handler.redirection record),
        { asked with site := asked.site.called .sign (.sign link) }) := by
  intro link asked
  rw [run_headers_eq, progress_eq_unsigned_iff.mpr h]
  exact run_redirect request hconnected uid record asked

/-- One URL is signed for a client that is sent to a file. -/
theorem storeCalls_of_redirects (hconnected : handler.connected = true)
    (h : handler.Redirects depot.records request uid record) :
    (handler.headers request).storeCalls depot =
      [.sign (handler.signing request uid record).link] := by
  have hrun := run_headers_of_redirects hconnected h
  have hcalls := (congrArg (·.2.site.calls) hrun).trans (List.append_assoc _ _ _)
  rw [Action.storeCalls_eq hcalls, List.filter_append, Handler.filter_openingCalls]
  rfl

/-- A refusal to sign is trouble of the storage. -/
theorem headers_of_refusal (hconnected : handler.connected = true)
    (h : handler.Redirects depot.records request uid record) {fault : Fault}
    (hfail : (depot.site.objects.take .sign).1 = some (.fail fault))
    (hrefusal : fault.isStoreRefusal = true) :
    ((handler.headers request).run depot).1 =
      .error (.media (.backend (.of "presign" (some uid.key) fault))) := by
  rw [run_headers_of_redirects hconnected h, Site.sign, Site.run_ask, hfail]
  simp [Site.answerOf, Except.mapError, Except.map, Failure.ofCall, hrefusal, Failure.backend]

/-- A file is to be saved just when it is asked for in this way. -/
theorem disposition_mem_overrides_iff {value : String} :
    ("ResponseContentDisposition", value) ∈ (handler.signing request uid record).link.overrides ↔
      value = "attachment" ∧ Text.upper request.method = "GET" ∧
        Query.WantsAttachment request.url := by
  rw [← asksForAttachment_iff]
  by_cases hget : Text.upper request.method = "GET"
  · cases hasks : asksForAttachment request.url <;>
      simp [Signing.link, Signing.overrides, signing, hget, hasks]
  · simp [Signing.link, signing, hget]

/-- **Two requests are alike to the object store**: they agree in everything that a signed URL may
depend on. -/
structure SignsAlike (one other : BucketHandler) (first second : FileRequest) (uid uid' : Uid)
    (record record' : Record) : Prop where
  method : Text.upper first.method = Text.upper second.method
  bucket : one.config.bucket = other.config.bucket
  key : uid.key = uid'.key
  cacheControl : one.config.cacheControl = other.config.cacheControl
  mimeType : record.mimeType = record'.mimeType
  seconds : one.config.linkSeconds = other.config.linkSeconds
  attachment : Text.upper first.method = "GET" →
    (Query.WantsAttachment first.url ↔ Query.WantsAttachment second.url)

theorem SignsAlike.signing_eq {one other : BucketHandler} {first second : FileRequest}
    {uid uid' : Uid} {record record' : Record}
    (h : SignsAlike one other first second uid uid' record record') :
    one.signing first uid record = other.signing second uid' record' := by
  have hattachment : (Text.upper first.method == "GET" && asksForAttachment first.url) =
      (Text.upper second.method == "GET" && asksForAttachment second.url) := by
    rw [← h.method]
    by_cases hget : Text.upper first.method = "GET"
    · rw [Bool.eq_iff_iff.mpr (asksForAttachment_iff.trans
        ((h.attachment hget).trans asksForAttachment_iff.symm))]
    · rw [beq_eq_false_iff_ne.mpr hget]
      rfl
  simp only [signing, h.method, h.bucket, h.key, h.cacheControl, h.mimeType, h.seconds,
    ← hattachment]

/-- A client that asks for a file holds it already, or is sent to it. -/
theorem status_of_asksForFile {result : HeaderResult} (hasks : Handler.AsksForFile request)
    (h : ((handler.headers request).run depot).1 = .ok result) :
    result.status = 304 ∨ result.status = 308 := by
  rw [run_headers_eq, Handler.opening_of_asksForFile hasks] at h
  rcases hfound : Handler.resolve depot.records handler.config.toServeConfig request.url with
    failure | ⟨uid, record⟩
  all_goals
    rw [hfound] at h
    simp only [Except.map, progress, if_pos hasks] at h
  · cases h
  · by_cases hholds : Handler.holds record request.headers = true
    · rw [if_pos hholds] at h
      cases h
      exact .inl rfl
    · rw [if_neg hholds] at h
      obtain ⟨target, rfl⟩ := handler.eq_redirection_of_redirect request h
      exact .inr rfl

/-- A browser's question is answered. -/
theorem status_of_preflight {result : HeaderResult}
    (hpreflight : CrossOrigin.isPreflight (Text.upper request.method) = true)
    (h : ((handler.headers request).run depot).1 = .ok result) : result.status = 204 := by
  rw [run_headers_eq, Handler.opening_of_preflight hpreflight] at h
  cases h
  rfl

/-- The methods of the route that serves files get an answer that is complete. -/
theorem status_ne_zero {result : HeaderResult} (hmethod : request.method ∈ Http.Route.serve.methods)
    (h : ((handler.headers request).run depot).1 = .ok result) : result.status ≠ 0 := by
  rcases Handler.asksForFile_or_isPreflight hmethod with hasks | hpreflight
  · rcases status_of_asksForFile hasks h with hstatus | hstatus <;> rw [hstatus] <;> decide
  · rw [status_of_preflight hpreflight h]
    decide

end BucketHandler

/-! ### The route that serves files -/

/-- Downloads a file, and from a bucket by other work. -/
def Handler.downloadOr (other : Action Download) (handler : Handler) (url : String) :
    Action Download :=
  match handler with
  | .files handler => handler.download url
  | .bucket _ => other

namespace Program

theorem run_useVault {α : Type} (work : Handler → Action α) (program : Program) :
    (useVault work).run program =
      match vault.run program with
      | (.ok vault, after) =>
        let (outcome, vault, site) := vault.run after.site work
        (outcome, { after with inUse := some vault, site })
      | (.error failure, after) => (.error failure, after) := by
  rw [useVault, ExceptT.run_bind_state]
  rcases vault.run program with ⟨failure | vault, after⟩ <;> rfl

/-- The vault in use is the vault to work with. -/
theorem run_vault_of_inUse {program : Program} {vault : Vault} (h : program.inUse = some vault) :
    Program.vault.run program = (.ok vault, program) := by
  rw [Program.vault, ExceptT.run_bind_state,
    show (get : Work Program).run program = (.ok program, program) from rfl]
  simp only [h]
  rfl

/-- Work on the vault leaves the handler in use that it worked with. -/
theorem exists_of_useVault {α : Type} {work : Handler → Action α} {program after : Program} {a : α}
    (h : (useVault work).run program = (.ok a, after)) :
    ∃ vault depot, after.inUse = some vault ∧ ((work vault.handler).run depot).1 = .ok a := by
  rw [run_useVault] at h
  rcases hvault : vault.run program with ⟨failure | vault, ready⟩
  all_goals rw [hvault] at h
  · cases h
  · obtain ⟨houtcome, rfl⟩ := Prod.mk.inj h
    exact ⟨_, ⟨vault.records, ready.site⟩, rfl, houtcome⟩

/-- Only what the work is with the handler in use counts. -/
theorem run_useVault_congr {α : Type} {work other : Handler → Action α} {program : Program}
    {vault : Vault} (hinUse : program.inUse = some vault)
    (h : work vault.handler = other vault.handler) :
    (useVault work).run program = (useVault other).run program := by
  simp only [run_useVault, run_vault_of_inUse hinUse, Vault.run, h]

end Program

namespace Http.App

/-- Serves a file, where files are downloaded from a bucket by other work. -/
def serveOr (other : Action Download) (request : Request) : Step Response := do
  let asked : FileRequest := ⟨request.method, request.url, request.headers.inSmallLetters, true⟩
  let result ← ofWork (Program.useVault fun handler => handler.headers asked)
  if result.status ≠ 0 then
    ofMade ((resultHeaders result).bind fun headers =>
      Response.whole? (result.status : Nat) headers none [])
  else
    let download ← ofWork (Program.useVault fun handler => handler.downloadOr other request.url)
    ofMade (contentResponse request.method result.headers download)

/-- What the route of a request gives, where files are downloaded from a bucket by other work. -/
def dispatchOr (other : Action Download) (request : Request) (requestId : String) : Step Response :=
  match Route.ofPath? request.path with
  | none => ofMade (unrouted request)
  | some route =>
    if !route.methods.contains request.method then
      ofMade (plainRefusal 405 (phrase 405) [("allow", ", ".intercalate route.methods)])
    else match route with
      | .serve => serveOr other request
      | .take => take request requestId
      | .health => health

theorem run_ofWork {α : Type} (work : Work α) (program : Program) :
    (ofWork work).run program =
      ((work.run program).1.mapError .failed, (work.run program).2) := rfl

/-- **The download of a bucket is never reached**: whatever else it might do, files are served in
the same way. -/
theorem serveOr_eq (other : Action Download) {request : Request}
    (hmethod : request.method ∈ Route.serve.methods) : serveOr other request = serve request := by
  funext program
  show (serveOr other request).run program = (serve request).run program
  rw [serveOr, serve, ExceptT.run_bind_state, ExceptT.run_bind_state, run_ofWork]
  generalize hasked : (⟨request.method, request.url, request.headers.inSmallLetters, true⟩ :
    FileRequest) = asked
  rcases hheaders : (Program.useVault fun handler => handler.headers asked).run program with
    ⟨failure | result, after⟩
  · rfl
  · -- the handler that gave the headers is the one that would be asked for the content
    obtain ⟨⟨handler, records⟩, depot, hinUse, hresult⟩ := Program.exists_of_useVault hheaders
    simp only [Except.mapError]
    by_cases hstatus : result.status = 0
    · cases handler with
      | files handler =>
          have hdownload :
              (Program.useVault fun handler => handler.downloadOr other request.url).run after =
                (Program.useVault fun handler => handler.download request.url).run after :=
            Program.run_useVault_congr hinUse rfl
          rw [if_neg (not_not_intro hstatus), if_neg (not_not_intro hstatus),
            ExceptT.run_bind_state, ExceptT.run_bind_state, run_ofWork, run_ofWork, hdownload]
      | bucket handler =>
          -- a bucket answers completely
          subst hasked
          exact absurd hstatus (BucketHandler.status_ne_zero hmethod hresult)
    · simp [hstatus]

/-- **No request reaches the download of a bucket.** -/
theorem dispatchOr_eq (other : Action Download) : dispatchOr other = dispatch := by
  funext request requestId
  unfold dispatchOr dispatch
  rcases Route.ofPath? request.path with _ | route
  · rfl
  · by_cases hmethod : request.method ∈ route.methods
    · cases route with
      | serve => simp [hmethod, serveOr_eq other hmethod]
      | take => rfl
      | health => rfl
    · simp [hmethod]

-- the download that buckets have gives back the dispatch itself
example : dispatchOr BucketHandler.download = dispatch := rfl

end Http.App

/-! ### What a client can do -/

/-- **What a client can do to signed URLs.** A bucket with a client for the object store calls it
for a request just when the request is sent to a file. Then it has one URL signed, which is a
function of the values in a `Signing`; it says that the file is to be saved just when a GET asks for
that; a refusal by the object store is trouble of the storage. Requests that agree in these values
make the same call, whatever they are otherwise. And files are served without the download of a
bucket. -/
theorem BucketHandler.signs_for_redirects (config : BucketConfig) (request : FileRequest)
    (depot : Depot) :
    let handler : BucketHandler := ⟨config, true⟩
    ((¬ ∃ uid record, handler.Redirects depot.records request uid record) →
      (handler.headers request).storeCalls depot = []) ∧
    (∀ uid record, handler.Redirects depot.records request uid record →
      let link := (handler.signing request uid record).link
      (handler.headers request).storeCalls depot = [.sign link] ∧
      (∀ value, ("ResponseContentDisposition", value) ∈ link.overrides ↔
        value = "attachment" ∧ Text.upper request.method = "GET" ∧
          Query.WantsAttachment request.url) ∧
      (∀ fault, (depot.site.objects.take .sign).1 = some (.fail fault) →
        fault.isStoreRefusal = true → ((handler.headers request).run depot).1 =
          .error (.media (.backend (.of "presign" (some uid.key) fault)))) ∧
      ∀ (config' : BucketConfig) request' depot' uid' record',
        let handler' : BucketHandler := ⟨config', true⟩
        handler'.Redirects depot'.records request' uid' record' →
          SignsAlike handler handler' request request' uid uid' record record' →
          (handler'.headers request').storeCalls depot' =
            (handler.headers request).storeCalls depot) ∧
    ∀ other, Http.App.dispatchOr other = Http.App.dispatch := by
  intro handler
  refine ⟨storeCalls_of_not_redirects, fun uid record h => ?_, Http.App.dispatchOr_eq⟩
  refine ⟨storeCalls_of_redirects rfl h, fun value => disposition_mem_overrides_iff,
    fun fault => headers_of_refusal rfl h, ?_⟩
  intro config' request' depot' uid' record' handler' h' halike
  rw [storeCalls_of_redirects rfl h, storeCalls_of_redirects rfl h', halike.signing_eq]

/-- A GET that asks to save a picture, in a spelling that is not the plainest. -/
theorem BucketHandler.signs_for_redirects_picture :
    let config : BucketConfig := { bucket := "pictures" }
    let record : Record := { id := "BQAAAAAAAAA", mimeType := "image/png", etag := "e" }
    let request : FileRequest :=
      ⟨"get", "http://host/v0/file/s/BQAAAAAAAAA.jpg?asatt=&a+satt=0&asatt=%20True&asatt=0",
        [("If-None-Match", "e")], false⟩
    let depot : Depot := ⟨.memory ⟨[record]⟩, default⟩
    Redirects ⟨config, true⟩ depot.records request ⟨5⟩ record ∧
      (headers ⟨config, true⟩ request).storeCalls depot =
        [.sign ⟨"get_object", "GET", "pictures", "auaaaaaaaaaaa",
          [("ResponseCacheControl", "no-cache, must-revalidate"),
            ("ResponseContentType", "image/png"), ("ResponseContentDisposition", "attachment")],
              120⟩] := by
  intro config record request depot
  have hredirects : Redirects ⟨config, true⟩ depot.records request ⟨5⟩ record := by
    refine ⟨.inl (by decide +kernel), ⟨by decide +kernel, by decide, rfl⟩, by decide +kernel⟩
  obtain ⟨-, hsigned, -⟩ := signs_for_redirects config request depot
  refine ⟨hredirects, (hsigned _ _ hredirects).1.trans ?_⟩
  exact congrArg (fun link => [Call.sign link]) (by decide +kernel)

end MediaDepot
