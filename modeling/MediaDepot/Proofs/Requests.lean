import MediaDepot.Proofs.Lookups

/-!
# MediaDepot.Proofs.Requests

**What requests for files come to, given the rows.** A request reads the row of the identifier in
its URL and changes nothing but the notes of calls. So what it comes to is a function of the rows,
with no store in sight:

* `Handler.found` — the record of the file that a URL names.
* `Handler.opened` — what a request comes to before a handler's own part.

A store that holds these rows answers accordingly (`Handler.resolve_of_holds`, `opening_of_holds`),
and so do files in a folder (`LocalHandler.run_headers`, `run_download`).
-/

namespace MediaDepot

namespace Handler

/-- The record of the file that a URL names, among these rows. -/
def found (memory : Memory) (config : ServeConfig) (url : String) : Except Failure (Uid × Record) :=
  match Uid.ofUrl url config.serveUrl with
  | .error fault => .error (.value (.url fault))
  | .ok uid =>
    if uid.isZero then .error (.media (.notFound none none))
    else match memory.get? uid.text with
      | some record => .ok (uid, record)
      | none => .error (.media (.notFound (some uid.text) none))

/-- What a request comes to before a handler's own part, given these rows. -/
def opened (memory : Memory) (config : ServeConfig) (method : String) (request : FileRequest) :
    Except Failure Opening :=
  let asked := CrossOrigin.negotiate method request.headers config.origins request.serve
  if asked.status ≠ 0 || bringsContent method then
    .ok (.answered { headers := asked.headers, status := asked.status })
  else (found memory config request.url).map fun (uid, record) => .file uid record asked.headers

variable {depot : Depot} {memory : Memory}

theorem resolve_of_holds {records : RecordStore} (h : records.Holds memory) (config : ServeConfig)
    (url : String) : resolve records config url = found memory config url := by
  unfold resolve found
  cases Uid.ofUrl url config.serveUrl with
  | error fault => rfl
  | ok uid =>
      simp only [RecordStore.look_of_holds h uid.text]
      split
      · rfl
      · cases memory.get? uid.text <;> rfl

theorem opening_of_holds {records : RecordStore} (h : records.Holds memory) (config : ServeConfig)
    (method : String) (request : FileRequest) :
    opening records config method request = opened memory config method request := by
  simp only [opening, opened, resolve_of_holds h]

/-- Looking a file up keeps the rows. -/
theorem keeps_noting (h : depot.records.Holds memory) {calls : List Call}
    (hcalls : ∀ call ∈ calls, ∃ id, call = .findOne id) :
    depot.Keeps (depot.noting calls) memory := by
  refine ⟨h, rfl, rfl, rfl, rfl, calls, rfl, fun call hcall => ?_⟩
  obtain ⟨id, rfl⟩ := hcalls call hcall
  rfl

end Handler

namespace LocalHandler

variable {depot : Depot} {memory : Memory} (handler : LocalHandler)

theorem run_headers (h : depot.records.Holds memory) (request : FileRequest) :
    ∃ after, (handler.headers request).run depot =
        ((Handler.opened memory handler.config.toServeConfig
          (Text.upper request.method) request).map (handler.answer request), after) ∧
      depot.Keeps after memory := by
  rw [run_headers_eq, Handler.opening_of_holds h]
  exact ⟨_, rfl, Handler.keeps_noting h fun call => Handler.mem_openingCalls⟩

theorem run_download (h : depot.records.Holds memory) (url : String) :
    ∃ after, (handler.download url).run depot =
        ((Handler.found memory handler.config.toServeConfig url).bind fun (_, record) =>
          match handler.content record.location depot.site.files with
          | .ok content => .ok ⟨record, content⟩
          | .error fault => .error (downloadFailure record fault), after) ∧
      depot.Keeps after memory := by
  rw [run_download_eq, Handler.resolve_of_holds h]
  exact ⟨_, rfl, Handler.keeps_noting h fun call => Handler.mem_resolveCalls⟩

end LocalHandler

end MediaDepot
