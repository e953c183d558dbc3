import MediaDepot.Handler.Basic
import MediaDepot.Proofs.Identifiers
import MediaDepot.Proofs.Stores

/-!
# MediaDepot.Proofs.Lookups

**What requests for files come to, whatever the store holds.** A store may be rows in memory or
documents of any form. Asking it for an identifier has an outcome (`RecordStore.look`) and leaves a
note of a call if it is a database (`RecordStore.lookups`), and nothing else changes. So a request
runs as functions of the store and the URL alone:

* `Handler.resolve` — the file that a URL leads to, or why it leads to none.
* `Handler.opening` — what a request comes to before a handler's own part.
* `LocalHandler.answer` — what a folder makes of that.

`Handler.LeadsTo` says in one place what it means that a URL leads to a record
(`resolve_eq_ok_iff`).
-/

namespace MediaDepot

/-! ### Stores -/

namespace RecordStore

/-- What a store answers when it is asked for an identifier. -/
def look : RecordStore → String → Except Failure (Option Record)
  | .memory rows, id => .ok (rows.get? id)
  | .database documents, id => (decode? (documents.find? id)).mapError .fault

/-- The calls that are noted when a store is asked for an identifier. -/
def lookups : RecordStore → String → List Call
  | .memory _, _ => []
  | .database _, id => [.findOne id]

theorem run_get_eq (depot : Depot) (id : String) :
    (get id).run depot = (depot.records.look id, depot.noting (depot.records.lookups id)) := by
  obtain ⟨records, site⟩ := depot
  cases records with
  | memory rows => simp [get, Action.run_bind, look, lookups]
  | database documents =>
      simp only [get, Action.run_bind, Action.run_get, run_note, look]
      cases decode? (documents.find? id) <;> rfl

/-- Nothing is known under an identifier that is not taken. -/
theorem look_of_not_taken {records : RecordStore} {id : String} (h : records.isTaken id = false) :
    records.look id = .ok none := by
  cases records with
  | memory rows => exact congrArg Except.ok (by simpa [isTaken] using h)
  | database documents =>
      have hnone : documents.documents.find? (·.hasKey id) = none :=
        List.find?_eq_none.mpr (List.any_eq_false.mp h)
      simp [look, Collection.find?, hnone, decode?, Except.mapError]

/-- A row that was added under a free identifier is found there. -/
theorem look_append {records : RecordStore} {record : Record}
    (free : records.isTaken record.id = false) :
    (records.append record).look record.id = .ok (some record) := by
  cases records with
  | memory rows =>
      have hnone : rows.get? record.id = none := by simpa [isTaken] using free
      simp [append, look, Memory.get?_append, hnone]
  | database documents =>
      simp only [append, look, Collection.find?_append free]
      simp [decode?, Record.ofDocument_toDocument]
      rfl

/-- A store that holds rows knows the row with the identifier. -/
theorem look_of_holds {records : RecordStore} {memory : Memory} (h : records.Holds memory)
    (id : String) : records.look id = .ok (memory.get? id) := by
  obtain ⟨after, hrun, -⟩ :=
    run_get (show (Depot.mk records default).records.Holds memory from h) id
  rw [run_get_eq] at hrun
  exact congrArg Prod.fst hrun

theorem mem_lookups {records : RecordStore} {id : String} {call : Call}
    (h : call ∈ records.lookups id) : call = .findOne id := by
  cases records with
  | memory rows => cases h
  | database documents => exact List.mem_singleton.mp h

end RecordStore

/-! ### URLs -/

namespace Handler

variable (records : RecordStore) (config : ServeConfig)

/-- The file that a URL leads to. -/
def resolve (url : String) : Except Failure (Uid × Record) :=
  match Uid.ofUrl url config.serveUrl with
  | .error fault => .error (.value (.url fault))
  | .ok uid =>
    if uid.isZero then .error (.media (.notFound none none))
    else (records.look uid.text).bind fun
      | some record => .ok (uid, record)
      | none => .error (.media (.notFound (some uid.text) none))

/-- The calls that are noted when a store is asked for the file of a URL. -/
def resolveCalls (url : String) : List Call :=
  match Uid.ofUrl url config.serveUrl with
  | .error _ => []
  | .ok uid => if uid.isZero then [] else records.lookups uid.text

/-- **The URL leads to this record**: it holds an identifier, and the store knows the record under
it. -/
structure LeadsTo (url : String) (uid : Uid) (record : Record) : Prop where
  named : Uid.ofUrl url config.serveUrl = .ok uid
  nonzero : uid ≠ .zero
  stored : records.look uid.text = .ok (some record)

variable {records config}

theorem resolve_eq_ok_iff {url : String} {uid : Uid} {record : Record} :
    resolve records config url = .ok (uid, record) ↔ LeadsTo records config url uid record := by
  constructor
  · intro h
    unfold resolve at h
    split at h
    · cases h
    · next found hnamed =>
        split at h
        · cases h
        · next hzero =>
            have hne : found ≠ .zero := by
              rintro rfl
              exact hzero rfl
            rcases hlook : records.look found.text with failure | _ | row
            all_goals
              rw [hlook] at h
              cases h
            exact ⟨hnamed, hne, hlook⟩
  · rintro ⟨hnamed, hnonzero, hstored⟩
    simp [resolve, hnamed, Uid.isZero_eq_false hnonzero, hstored, Except.bind]

theorem mem_resolveCalls {url : String} {call : Call} (h : call ∈ resolveCalls records config url) :
    ∃ id, call = .findOne id := by
  unfold resolveCalls at h
  split at h
  · cases h
  · split at h
    · cases h
    · exact ⟨_, RecordStore.mem_lookups h⟩

theorem run_find_eq (config : ServeConfig) (url : String) (depot : Depot) :
    (find config url).run depot =
      (resolve depot.records config url, depot.noting (resolveCalls depot.records config url)) := by
  rw [find, Action.run_bind, identify, resolve, resolveCalls]
  cases Uid.ofUrl url config.serveUrl with
  | error fault => simp
  | ok uid =>
      by_cases hzero : uid.isZero = true
      · simp only [Action.run_pure, if_pos hzero, Depot.noting_nil]
        rfl
      · simp only [Action.run_pure, if_neg hzero, Action.run_bind, RecordStore.run_get_eq]
        rcases depot.records.look uid.text with failure | _ | record <;> rfl

/-! ### Requests -/

variable (records config)

/-- What a request comes to before a handler's own part. -/
def opening (method : String) (request : FileRequest) : Except Failure Opening :=
  let asked := CrossOrigin.negotiate method request.headers config.origins request.serve
  if asked.status ≠ 0 || bringsContent method then
    .ok (.answered { headers := asked.headers, status := asked.status })
  else (resolve records config request.url).map fun (uid, record) => .file uid record asked.headers

/-- The calls that are noted before a handler's own part. -/
def openingCalls (method : String) (request : FileRequest) : List Call :=
  let asked := CrossOrigin.negotiate method request.headers config.origins request.serve
  if asked.status ≠ 0 || bringsContent method then [] else resolveCalls records config request.url

variable {records config}

theorem mem_openingCalls {method : String} {request : FileRequest} {call : Call}
    (h : call ∈ openingCalls records config method request) : ∃ id, call = .findOne id := by
  simp only [openingCalls] at h
  split at h
  · cases h
  · exact mem_resolveCalls h

theorem run_start_eq (config : ServeConfig) (method : String) (request : FileRequest)
    (depot : Depot) : (start config method request).run depot =
      (opening depot.records config method request,
        depot.noting (openingCalls depot.records config method request)) := by
  simp only [start, opening, openingCalls]
  split
  · simp
  · rw [Action.run_bind, run_find_eq]
    cases resolve depot.records config request.url <;> rfl

/-- What is opened is the record that the URL leads to. -/
theorem leadsTo_of_opening {method : String} {request : FileRequest} {uid : Uid} {record : Record}
    {crossOrigin : Headers}
    (h : opening records config method request = .ok (.file uid record crossOrigin)) :
    LeadsTo records config request.url uid record := by
  simp only [opening] at h
  split at h
  · cases h
  · rcases hfound : resolve records config request.url with failure | ⟨uid', record'⟩
    all_goals
      rw [hfound] at h
      cases h
    exact resolve_eq_ok_iff.mp hfound

end Handler

/-- The methods that ask for a file. -/
def Handler.AsksForFile (request : FileRequest) : Prop :=
  Text.upper request.method = "GET" ∨ Text.upper request.method = "HEAD"

instance (request : FileRequest) : Decidable (Handler.AsksForFile request) :=
  inferInstanceAs (Decidable (_ ∨ _))

/-- Only a browser's question is answered by the rules for other origins. -/
theorem CrossOrigin.status_negotiate (method : String) (headers : Headers) (allowed : List String)
    (serve : Bool) :
    (negotiate method headers allowed serve).status = if isPreflight method then 204 else 0 := by
  cases serve <;> by_cases h : isPreflight method = true <;> simp [negotiate, h]

/-- A request for a file is nothing but a request to resolve its URL. -/
theorem Handler.opening_of_asksForFile {records : RecordStore} {config : ServeConfig}
    {request : FileRequest} (h : AsksForFile request) :
    opening records config (Text.upper request.method) request =
      (resolve records config request.url).map fun (uid, record) =>
        .file uid record (CrossOrigin.negotiate (Text.upper request.method) request.headers
          config.origins request.serve).headers := by
  have hcontent : bringsContent (Text.upper request.method) = false := by
    rcases h with h | h <;> rw [h] <;> decide
  have hpreflight : CrossOrigin.isPreflight (Text.upper request.method) = false := by
    rcases h with h | h <;> rw [h] <;> decide
  simp [opening, CrossOrigin.status_negotiate, hcontent, hpreflight]

/-- A browser's question is answered at once. -/
theorem Handler.opening_of_preflight {records : RecordStore} {config : ServeConfig}
    {method : String} {request : FileRequest} (h : CrossOrigin.isPreflight method = true) :
    opening records config method request =
      .ok (.answered {
        headers :=
          (CrossOrigin.negotiate method request.headers config.origins request.serve).headers
        status := 204 }) := by
  simp [opening, CrossOrigin.status_negotiate, h]

/-! ### Files in a folder -/

namespace LocalHandler

variable (handler : LocalHandler)

/-- The headers of a file in a folder. -/
def answer (request : FileRequest) : Handler.Opening → HeaderResult
  | .answered result => result
  | .file _ record crossOrigin =>
    let config := handler.config.toServeConfig
    let basic := crossOrigin ++ [("Cache-Control", config.cacheControl)]
    if record.etag.isEmpty then { headers := basic }
    else if Handler.holds record request.headers then Handler.notModified config record
    else { headers := basic ++ [("ETag", Handler.quotedEtag record)] }

theorem run_headers_eq (request : FileRequest) (depot : Depot) :
    let config := handler.config.toServeConfig
    let method := Text.upper request.method
    (handler.headers request).run depot =
      ((Handler.opening depot.records config method request).map (handler.answer request),
        depot.noting (Handler.openingCalls depot.records config method request)) := by
  intro config method
  simp only [headers, Action.run_bind, Handler.run_start_eq]
  rcases Handler.opening depot.records config method request with
    failure | result | ⟨uid, record, crossOrigin⟩
  · rfl
  · rfl
  · simp only [Except.map, answer]
    split
    · rfl
    · split <;> rfl

theorem run_download_eq (url : String) (depot : Depot) :
    let config := handler.config.toServeConfig
    (handler.download url).run depot =
      ((Handler.resolve depot.records config url).bind fun (_, record) =>
          match handler.content record.location depot.site.files with
          | .ok content => .ok ⟨record, content⟩
          | .error fault => .error (downloadFailure record fault),
        depot.noting (Handler.resolveCalls depot.records config url)) := by
  intro config
  simp only [download, Action.run_bind, Handler.run_find_eq]
  rcases Handler.resolve depot.records config url with failure | ⟨uid, record⟩
  · rfl
  · simp only [Except.bind, Action.run_get, Depot.files_noting]
    cases handler.content record.location depot.site.files <;> rfl

end LocalHandler

/-! ### Failures -/

namespace Handler

/-- What fails before a handler's own part fails with every handler. -/
theorem run_headers_of_failed (handler : Handler) {request : FileRequest} {depot : Depot}
    {failure : Failure}
    (h : opening depot.records handler.serveConfig (Text.upper request.method) request =
      .error failure) : ((handler.headers request).run depot).1 = .error failure := by
  cases handler with
  | files handler =>
      rw [headers, handler.run_headers_eq,
        show opening depot.records handler.config.toServeConfig _ _ = _ from h]
      rfl
  | bucket handler =>
      have hstart := run_start_eq handler.config.toServeConfig (Text.upper request.method)
        request depot
      rw [show opening depot.records handler.config.toServeConfig _ _ = _ from h] at hstart
      simp only [headers, BucketHandler.headers, Action.run_bind, hstart]

end Handler

end MediaDepot
