import MediaDepot.Proofs.Agreement
import MediaDepot.Proofs.Folders
import MediaDepot.Proofs.RoundTrip
import MediaDepot.Proofs.SignedLinks

/-!
# MediaDepot.Proofs.HeadRequests

**HEAD tells what GET would send.** A HEAD request is answered with the size in the row, and a GET
request with the content of the file. That these agree is kept by uploads, sweeps and deletions
(`InStep`): a row is ready only after all of its file was written, no other upload writes to that
file, and a deletion takes it away as a whole.

So wherever a depot may get (`Depot.Reached`), the two requests come to the same response but for
its length and its body, or fail in the same way (`Http.App.head_like_get`).
-/

namespace MediaDepot

/-! ### Rows in step with files -/

/-- **Rows are in step with files**: whatever is read at the place of a ready row has the size that
the row says, and the file lies at the key of the row, in a folder that is there. -/
structure InStep (handler : LocalHandler) (seen : List Uid) (memory : Memory)
    (files : FileTree) : Prop where
  ledger : Ledger seen memory
  placed : ∀ row ∈ memory.rows, row.status = .ready → row.location = row.key
  folder : ∀ row ∈ memory.rows, row.status = .ready → files.HasFolder handler.root
  size : ∀ row ∈ memory.rows, row.status = .ready →
    ∀ content, handler.content row.location files = .ok content → row.size = content.length

namespace InStep

variable {handler : LocalHandler} {seen : List Uid} {memory : Memory} {files after : FileTree}

theorem nil (handler : LocalHandler) (files : FileTree) : InStep handler [] {} files :=
  ⟨.nil, nofun, nofun, nofun⟩

/-- What takes rows and files away leaves the rest in step. -/
theorem of_less (h : InStep handler seen memory files) {memory' : Memory}
    (hrows : ∀ row ∈ memory'.rows, row ∈ memory.rows) (hledger : Ledger seen memory')
    {names : List String} (hspares : FileTree.Spares names files after)
    (hless : FileTree.Spares [] after files) : InStep handler seen memory' after where
  ledger := hledger
  placed row hrow := h.placed row (hrows row hrow)
  folder row hrow hready := (h.folder row (hrows row hrow) hready).of_spares hspares
  size row hrow hready content hcontent := h.size row (hrows row hrow) hready content
    (handler.content_of_spares hless List.not_mem_nil hcontent)

/-- An upload writes to no file of a row that is there. -/
theorem ne_key (h : InStep handler seen memory files) {uid : Uid} (fresh : uid ∉ seen)
    {row : Record} (hrow : row ∈ memory.rows) : row.key ≠ uid.key := by
  intro hkey
  obtain ⟨other, hother, htext⟩ := h.ledger.known row hrow
  have hsame : other = uid := Uid.key_injective ((Record.key_eq htext).symm.trans hkey)
  exact fresh (hsame ▸ hother)

/-- **An upload** leaves the rows in step with the files, whether it succeeds or not. -/
theorem append (h : InStep handler seen memory files) {uid : Uid} (fresh : uid ∉ seen)
    {row : Record} (hid : row.id = uid.text) (hplace : row.status ≠ .ready → row.location = "")
    (hspares : FileTree.Spares [uid.key] files after)
    (hmore : files.HasFolder handler.root → FileTree.Spares [uid.key] after files)
    (hnew : row.status = .ready → row.location = uid.key ∧
      ∃ content, handler.content uid.key after = .ok content ∧ row.size = content.length) :
    InStep handler (uid :: seen) (memory.append row) after := by
  have hold (other : Record) (hother : other ∈ memory.rows) (hready : other.status = .ready)
      (content : Bytes) (hcontent : handler.content other.location after = .ok content) :
      other.size = content.length := by
    -- the folder was there before, so nothing but the new file has been added
    have hless := hmore (h.folder other hother hready)
    have hother' : other.location ∉ [uid.key] := by
      rw [h.placed other hother hready, List.mem_singleton]
      exact h.ne_key fresh hother
    exact h.size other hother hready content (handler.content_of_spares hless hother' hcontent)
  refine ⟨h.ledger.append fresh hid hplace, ?_, ?_, ?_⟩
  all_goals
    intro other hother hready
    rcases List.mem_append.mp hother with hother | hother
  · exact h.placed other hother hready
  · obtain rfl := List.mem_singleton.mp hother
    rw [(hnew hready).1, Record.key_eq hid]
  · exact (h.folder other hother hready).of_spares hspares
  · obtain rfl := List.mem_singleton.mp hother
    obtain ⟨-, content, hcontent, -⟩ := hnew hready
    exact FileTree.hasFolder_of_read (handler.content_eq_ok_iff.mp hcontent).2
  · exact hold other hother hready
  · obtain rfl := List.mem_singleton.mp hother
    obtain ⟨hlocation, content, hcontent, hsize⟩ := hnew hready
    intro found hfound
    rw [hlocation, hcontent] at hfound
    cases hfound
    exact hsize

end InStep

/-! ### Where a depot may get -/

/-- **Where a depot may get** from one without rows, with the identifiers that have been drawn: by
what happens to it, no identifier being drawn twice, and by deletions of any files. -/
inductive Depot.Reached (handler : LocalHandler) : List Uid → Depot → Prop where
  | idle {records : RecordStore} (empty : records.Holds {}) (site : Site) :
    Reached handler [] ⟨records, site⟩
  | event {seen : List Uid} {depot : Depot} (reached : Reached handler seen depot) (event : Event)
    (fresh : ∀ uid ∈ event.drawn, uid ∉ seen) (nonzero : ∀ uid ∈ event.drawn, uid.isZero = false) :
    Reached handler (event.drawn ++ seen) (event.step handler depot)
  | delete {seen : List Uid} {depot : Depot} (reached : Reached handler seen depot)
    (locations : List String) : Reached handler seen ((handler.delete locations).run depot).2

namespace InStep

variable {depot : Depot} {handler : LocalHandler} {seen : List Uid} {memory : Memory}

theorem upload (h : depot.records.Holds memory)
    (hstep : InStep handler seen memory depot.site.files)
    {uid : Uid} (fresh : uid ∉ seen) (nonzero : uid.isZero = false) (source : Source)
    (mimeType user : Option String) :
    let after := ((Service.upload (.files handler) source mimeType user).run (depot.drawing uid)).2
    ∃ memory', after.records.Holds memory' ∧
      InStep handler (uid :: seen) memory' after.site.files := by
  let record := Service.entered uid mimeType user depot.site.epoch
  have hid : record.id = uid.text := rfl
  have hkey : record.key = uid.key := Record.key_eq hid
  obtain ⟨begun, transfer, site, after, hbefore, hdone, hrun, hafter, hfiles, hspares, hstored⟩ :=
    Service.run_upload_folder handler h hstep.ledger fresh nonzero source mimeType user
  have hmore (hfolder : depot.site.files.HasFolder handler.root) :
      FileTree.Spares [uid.key] after.site.files depot.site.files := by
    have hless := handler.transfer_spares_before (hbefore ▸ hfolder) record source
    rwa [hdone, hbefore, hkey, ← hfiles] at hless
  rw [hrun]
  refine ⟨_, hafter, ?_⟩
  cases hsucceeded : transfer.succeeded with
  | false =>
      -- part of the file may be there, but its row is not ready
      exact hstep.append fresh ((Record.id_settled ..).trans hid) (fun _ => rfl) hspares hmore nofun
  | true =>
      obtain ⟨settled, failure | uploaded⟩ := transfer
      · cases hsucceeded
      · obtain ⟨hcontent, hrecord, huploaded⟩ := hstored uploaded rfl
        obtain rfl : settled = _ := hrecord
        subst huploaded
        exact hstep.append fresh ((Record.id_settled ..).trans hid) (fun h => absurd rfl h)
          hspares hmore fun _ => ⟨rfl, source.rest, hcontent, rfl⟩

theorem sweep (h : depot.records.Holds memory) (hstep : InStep handler seen memory depot.site.files)
    (size age : Int) :
    let after := ((Service.sweep (.files handler) size age).run depot).2
    ∃ memory', after.records.Holds memory' ∧ InStep handler seen memory' after.site.files := by
  obtain ⟨hholds, hfiles⟩ := Service.sweep_folder h handler size age
  refine ⟨_, hholds, ?_⟩
  rw [hfiles]
  exact hstep.of_less (fun row hrow => List.mem_of_mem_filter hrow) (hstep.ledger.remove _)
    (handler.deleteAll_spares _ _) (handler.deleteAll_spares_before _ _)

theorem delete (hstep : InStep handler seen memory depot.site.files) (locations : List String) :
    InStep handler seen memory ((handler.delete locations).run depot).2.site.files := by
  rw [LocalHandler.delete_after]
  exact hstep.of_less (fun _ => id) hstep.ledger (handler.deleteAll_spares _ _)
    (handler.deleteAll_spares_before _ _)

/-- **Every event** leaves the rows in step with the files. -/
theorem event (h : depot.records.Holds memory) (hstep : InStep handler seen memory depot.site.files)
    (event : Event) (fresh : ∀ uid ∈ event.drawn, uid ∉ seen)
    (nonzero : ∀ uid ∈ event.drawn, uid.isZero = false) :
    ∃ memory', (event.step handler depot).records.Holds memory' ∧
      InStep handler (event.drawn ++ seen) memory' (event.step handler depot).site.files := by
  cases event with
  | clock now => exact ⟨memory, h, hstep⟩
  | upload uid source mimeType user =>
      exact hstep.upload h (fresh uid List.mem_cons_self) (nonzero uid List.mem_cons_self) source
        mimeType user
  | sweep size age => exact hstep.sweep h size age
  | headers request =>
      obtain ⟨after, hrun, hholds, hnoted⟩ := handler.run_headers h request
      simp only [Event.step, hrun]
      exact ⟨memory, hholds, hnoted.files ▸ hstep⟩
  | download url =>
      obtain ⟨after, hrun, hholds, hnoted⟩ := handler.run_download h url
      simp only [Event.step, hrun]
      exact ⟨memory, hholds, hnoted.files ▸ hstep⟩

end InStep

/-- **Wherever a depot may get**, its rows are in step with its files. -/
theorem Depot.Reached.inStep {handler : LocalHandler} {seen : List Uid} {depot : Depot}
    (h : Reached handler seen depot) :
    ∃ memory, depot.records.Holds memory ∧ InStep handler seen memory depot.site.files := by
  induction h with
  | idle empty site => exact ⟨{}, empty, .nil handler site.files⟩
  | event _ event fresh nonzero ih =>
      obtain ⟨memory, hholds, hstep⟩ := ih
      exact hstep.event hholds event fresh nonzero
  | delete _ locations ih =>
      obtain ⟨memory, hholds, hstep⟩ := ih
      refine ⟨memory, ?_, hstep.delete locations⟩
      exact ((Handler.files handler).delete_sparesRecords locations).holds hholds

/-- Wherever a depot may get, only the file of a ready row is read, and it has the size that the row
says. -/
theorem Depot.Reached.size_of_leadsTo {handler : LocalHandler} {seen : List Uid} {depot : Depot}
    (h : Reached handler seen depot) {config : ServeConfig} {url : String} {uid : Uid}
    {row : Record}
    (hleads : Handler.LeadsTo depot.records config url uid row) {content : Bytes}
    (hcontent : handler.content row.location depot.site.files = .ok content) :
    row.status = .ready ∧ row.size = content.length := by
  obtain ⟨memory, hholds, hstep⟩ := h.inStep
  have hrow : memory.get? uid.text = some row :=
    Except.ok.inj ((RecordStore.look_of_holds hholds uid.text).symm.trans hleads.stored)
  have hmem : row ∈ memory.rows := Memory.mem_of_get? hrow
  have hready : row.status = .ready := by
    by_contra hother
    -- any other row has no location, and nothing is read there
    have hplain := (handler.content_eq_ok_iff.mp hcontent).1
    rw [hstep.ledger.unplaced row hmem hother] at hplain
    revert hplain
    decide
  exact ⟨hready, hstep.size row hmem hready content hcontent⟩

/-! ### Responses -/

namespace Http

/-- The name of the header that tells the length of a body. -/
abbrev lengthName : String := "content-length"

/-- The headers but for the length. -/
def Response.otherHeaders (response : Response) : Headers :=
  response.headers.filter fun header => header.1 != lengthName

/-- **The response to HEAD announces the response to GET**: it has the same status and the same
headers but for the length, and where content is sent it tells the length of the content. -/
structure Response.Announces (head get : Response) : Prop where
  status : head.status = get.status
  headers : head.otherHeaders = get.otherHeaders
  length : get.status = 200 → head.headers.filter (fun header => header.1 == lengthName) =
    [(lengthName, toString get.body.length)]

/-- **GET and HEAD agree**: both fail in the same way, or the response to HEAD announces the
response to GET. -/
inductive Agree {ε : Type} : Except ε Response → Except ε Response → Prop where
  | failed (fault : ε) : Agree (.error fault) (.error fault)
  | announced {get head : Response} (announces : head.Announces get) : Agree (.ok get) (.ok head)

theorem Agree.mapError {ε δ : Type} {get head : Except ε Response} (h : Agree get head)
    (f : ε → δ) : Agree (get.mapError f) (head.mapError f) := by
  cases h with
  | failed fault => exact .failed (f fault)
  | announced announces => exact .announced announces

theorem Agree.exists_announcement {ε : Type} {get head : Except ε Response} (h : Agree get head)
    {full : Response} (hget : get = .ok full) : ∃ bare, head = .ok bare ∧ bare.Announces full := by
  cases h with
  | failed fault => cases hget
  | announced announces =>
      cases hget
      exact ⟨_, rfl, announces⟩

/-- Responses without content agree if they are the same. -/
theorem Agree.refl {ε : Type} {outcome : Except ε Response}
    (h : ∀ response, outcome = .ok response → response.status ≠ 200) : Agree outcome outcome := by
  cases outcome with
  | error fault => exact .failed fault
  | ok response => exact .announced ⟨rfl, rfl, fun hstatus => absurd hstatus (h response rfl)⟩

/-- A text can be written if all of its characters are in Latin-1. -/
theorem latin1Fault?_eq_none_iff {text : String} :
    latin1Fault? text = none ↔ ∀ c ∈ text.toList, c.toNat < 256 := by
  have hinside : text.toList.findIdx? (fun c => decide (256 ≤ c.toNat)) = none ↔
      ∀ c ∈ text.toList, c.toNat < 256 := by
    simp [List.findIdx?_eq_none_iff]
  rw [← hinside, latin1Fault?]
  cases text.toList.findIdx? (fun c => decide (256 ≤ c.toNat)) <;> simp

theorem latin1Fault?_toString (n : Nat) : latin1Fault? (toString n) = none := by
  have hdigits : (toString n).toList = Nat.toDigits 10 n := by simp [Nat.repr]
  rw [latin1Fault?_eq_none_iff, hdigits]
  intro c hc
  have hdigit : c.isDigit = true := Nat.isDigit_of_mem_toDigits (by decide) (by decide) hc
  have hbound : c.toNat ≤ 57 := by
    simp only [Char.isDigit, Bool.and_eq_true, decide_eq_true_eq] at hdigit
    exact hdigit.2
  omega

/-- The header of a length is sent as it is. -/
theorem encodeHeaders_length (n : Nat) :
    encodeHeaders [("Content-Length", toString n)] = .ok [(lengthName, toString n)] := by
  have hname : Text.lower "Content-Length" = lengthName := by decide
  have hlatin : latin1Fault? lengthName = none := by decide
  simp only [encodeHeaders, List.mapM_cons, List.mapM_nil, hname, hlatin, latin1Fault?_toString]
  rfl

theorem encodeHeaders_append (headers more : Headers) :
    encodeHeaders (headers ++ more) =
      (encodeHeaders headers).bind fun given => (encodeHeaders more).map (given ++ ·) := by
  simp only [encodeHeaders, List.mapM_append]
  rcases List.mapM _ headers with fault | given
  · rfl
  · rcases List.mapM _ more with fault | rest <;> rfl

/-- Headers are sent one by one, their names in small letters, which can be written. -/
theorem of_encodeHeaders_cons {name value : String} {headers given : Headers}
    (h : encodeHeaders ((name, value) :: headers) = .ok given) :
    ∃ rest, encodeHeaders headers = .ok rest ∧ latin1Fault? (Text.lower name) = none ∧
      given = (Text.lower name, value) :: rest := by
  revert h
  simp only [encodeHeaders, List.mapM_cons]
  rcases latin1Fault? (Text.lower name) with _ | fault
  · rcases latin1Fault? value with _ | fault
    · rcases List.mapM _ headers with fault | rest
      · exact nofun
      · intro h
        cases h
        exact ⟨rest, rfl, rfl, rfl⟩
    · exact nofun
  · exact nofun

/-- The names that are sent are those of the headers. -/
theorem mem_encodeHeaders {headers given : Headers} (h : encodeHeaders headers = .ok given)
    {header : String × String} (hmem : header ∈ given) :
    ∃ name value, (name, value) ∈ headers ∧ header.1 = Text.lower name := by
  induction headers generalizing given with
  | nil =>
      cases h
      cases hmem
  | cons first headers ih =>
      obtain ⟨name, value⟩ := first
      obtain ⟨rest, hrest, -, rfl⟩ := of_encodeHeaders_cons h
      rcases List.mem_cons.mp hmem with rfl | hmem
      · exact ⟨name, value, List.mem_cons_self, rfl⟩
      · obtain ⟨name, value, hheader, hname⟩ := ih hrest hmem
        exact ⟨name, value, List.mem_cons_of_mem _ hheader, hname⟩

/-- What is added to headers unless they have it is added in the same way if they have one more of
another name. -/
theorem unlessGiven_append_of_ne {name other : String} (h : name ≠ other) (headers : Headers)
    (value : String) (added : Option String) :
    unlessGiven (headers ++ [(other, value)]) name added = unlessGiven headers name added := by
  have hne : (name == other) = false := by simpa using h
  have hlookup : (headers ++ [(other, value)]).lookup name = headers.lookup name := by
    rw [List.lookup_append, List.lookup_cons, hne]
    simp
  simp only [unlessGiven, hlookup]

theorem unlessGiven_append_self (headers : Headers) (name value : String) (added : Option String) :
    unlessGiven (headers ++ [(name, value)]) name added = [] := by
  cases added <;> simp [unlessGiven, List.lookup_append]

theorem fst_of_mem_unlessGiven {headers : Headers} {name : String} {added : Option String}
    {header : String × String} (h : header ∈ unlessGiven headers name added) : header.1 = name := by
  unfold unlessGiven at h
  split at h
  · split at h
    · cases h
    · rw [List.mem_singleton.mp h]
  · cases h

/-- **A response of content and its announcement** agree if the content has the size in the
record. -/
theorem contentResponse_agrees {headers : Headers} (download : Download)
    (hnames : ∀ name value, (name, value) ∈ headers → Text.lower name ≠ lengthName)
    (hsize : download.record.size = download.content.length) :
    Agree (App.contentResponse "GET" headers download)
      (App.contentResponse "HEAD" headers download) := by
  have hlength : toString download.record.size = toString download.content.length := by
    rw [hsize]
    rfl
  have hget : App.contentResponse "GET" headers download =
      Response.streamed? 200 headers (some download.record.mimeType) download.content := rfl
  have hhead : App.contentResponse "HEAD" headers download =
      Response.whole? 200 (headers ++ [("Content-Length", toString download.record.size)])
        (some download.record.mimeType) [] := rfl
  rw [hget, hhead, hlength, Response.streamed?, Response.whole?, Response.make?, Response.make?,
    encodeHeaders_append, encodeHeaders_length]
  rcases hgiven : encodeHeaders headers with fault | given
  · exact .failed fault
  simp only [Except.bind, Except.map, bind]
  rcases (Option.map contentType (some download.record.mimeType)).bind latin1Fault? with _ | fault
  case some => exact .failed fault
  -- neither the given headers nor the type have the name of the length
  have hgivenNames : given.filter (fun header => header.1 == lengthName) = [] := by
    refine List.filter_eq_nil_iff.mpr fun header hheader => ?_
    obtain ⟨name, value, hmem, hname⟩ := mem_encodeHeaders hgiven hheader
    simpa [hname] using hnames name value hmem
  have htypeNames (added : Option String) :
      (unlessGiven given "content-type" added).filter (fun header => header.1 == lengthName) =
        [] := by
    refine List.filter_eq_nil_iff.mpr fun header hheader => ?_
    rw [fst_of_mem_unlessGiven hheader]
    decide
  have hbare : (unlessGiven given lengthName
      (if hasLength 200 then Option.map toString (none : Option Nat) else none)) = [] := rfl
  refine .announced ⟨rfl, ?_, fun _ => ?_⟩
  all_goals
    simp only [Response.otherHeaders, unlessGiven_append_self, hbare, List.append_nil,
      unlessGiven_append_of_ne (show "content-type" ≠ lengthName by decide), List.filter_append]
  · simp
  · simp [hgivenNames, htypeNames]

/-- **A response that is made** has the headers that are sent, and after them those that are
added. -/
theorem of_make {status : Int} {headers : Headers} {mediaType : Option String}
    {length : Option Nat} {body : Bytes} {response : Response}
    (h : Response.make? status headers mediaType length body = .ok response) :
    ∃ given announced, encodeHeaders headers = .ok given ∧
      response = ⟨status, given ++ unlessGiven given lengthName announced
        ++ unlessGiven given "content-type" (mediaType.map contentType), body⟩ := by
  revert h
  unfold Response.make?
  rcases encodeHeaders headers with fault | given
  · exact nofun
  · simp only [bind, Except.bind]
    rcases (mediaType.map contentType).bind latin1Fault? with _ | fault
    · intro h
      cases h
      exact ⟨given, _, rfl, rfl⟩
    · exact nofun

theorem status_of_make {status : Int} {headers : Headers} {mediaType : Option String}
    {length : Option Nat} {body : Bytes} {response : Response}
    (h : Response.make? status headers mediaType length body = .ok response) :
    response.status = status := by
  obtain ⟨given, announced, -, rfl⟩ := of_make h
  rfl

end Http

/-! ### Serving from a folder -/

/-- The names of the headers for other origins. -/
theorem CrossOrigin.names_negotiate (method : String) (headers : Headers) (allowed : List String)
    (serve : Bool) :
    (negotiate method headers allowed serve).headers.map Prod.fst ⊆
      ["Access-Control-Allow-Origin", "Vary", "Access-Control-Allow-Methods",
        "Access-Control-Allow-Headers", "Access-Control-Max-Age"] := by
  unfold negotiate
  split
  · dsimp only
    split
    · simp only [originHeader]
      split <;> simp [preflightHeaders]
    · simp only [answerHeaders]
      split <;> simp
  · simp

/-- No header for other origins tells a length. -/
theorem CrossOrigin.lower_of_mem_negotiate {method name value : String} {headers : Headers}
    {allowed : List String} {serve : Bool}
    (h : (name, value) ∈ (negotiate method headers allowed serve).headers) :
    Text.lower name ≠ Http.lengthName := by
  have hname := names_negotiate method headers allowed serve (List.mem_map_of_mem h)
  simp only [List.mem_cons, List.not_mem_nil, or_false] at hname
  rcases hname with rfl | rfl | rfl | rfl | rfl <;> decide

/-- No header of a file in a folder tells a length. -/
theorem LocalHandler.lower_of_mem_answer {handler : LocalHandler}
    {request : FileRequest} {uid : Uid}
    {record : Record} {config : ServeConfig} {name value : String}
    (h : (name, value) ∈ (handler.answer request (.file uid record
      (Handler.crossOrigin config request))).headers) : Text.lower name ≠ Http.lengthName := by
  have hnames : (name, value) ∈ Handler.crossOrigin config request ∨ name = "Cache-Control" ∨
      name = "ETag" := by
    simp only [answer, Handler.notModified] at h
    split at h
    · simp at h
      tauto
    · split at h <;> simp at h <;> tauto
  rcases hnames with hforeign | rfl | rfl
  · exact CrossOrigin.lower_of_mem_negotiate hforeign
  · decide
  · decide

/-- A folder lets the content of a file follow, or says that the client holds it. -/
theorem LocalHandler.status_answer (handler : LocalHandler) (request : FileRequest) (uid : Uid)
    (record : Record) (crossOrigin : Headers) :
    (handler.answer request (.file uid record crossOrigin)).status = 0 ∨
      (handler.answer request (.file uid record crossOrigin)).status = 304 := by
  by_cases hholds : Handler.holds record request.headers = true
  · exact .inr (congrArg HeaderResult.status (Handler.answer_of_holds handler hholds))
  · obtain ⟨headers, hanswer⟩ : ∃ headers, handler.answer request (.file uid record crossOrigin) =
        { headers, status := 0 } := Handler.answer_of_not_holds handler hholds
    exact .inl (congrArg HeaderResult.status hanswer)

/-- A request for a file looks its URL up. -/
theorem LocalHandler.run_headers_of_asksForFile (handler : LocalHandler) {request : FileRequest}
    (hasks : Handler.AsksForFile request) (depot : Depot) :
    ∃ calls, (handler.headers request).run depot =
      ((Handler.resolve depot.records handler.config.toServeConfig request.url).map fun found =>
          handler.answer request (.file found.1 found.2
            (Handler.crossOrigin handler.config.toServeConfig request)),
        depot.noting calls) := by
  rw [run_headers_eq, Handler.opening_of_asksForFile hasks]
  refine ⟨_, Prod.ext ?_ rfl⟩
  cases Handler.resolve depot.records handler.config.toServeConfig request.url <;> rfl

/-- **The program works with this handler on this depot.** -/
structure Program.Uses (program : Program) (handler : Handler) (depot : Depot) : Prop where
  vault : program.inUse = some ⟨handler, depot.records⟩
  site : program.site = depot.site

/-- A program that works with this handler on this depot. -/
def Program.holding (handler : Handler) (depot : Depot) : Program :=
  { site := depot.site, inUse := some ⟨handler, depot.records⟩ }

theorem Program.uses_holding (handler : Handler) (depot : Depot) :
    (holding handler depot).Uses handler depot := ⟨rfl, rfl⟩

namespace Http.App

variable {program : Program} {depot : Depot}

theorem run_ofMade {α : Type} (made : Except Fault α) (program : Program) :
    (ofMade made).run program = (made.mapError fun fault => .failed (.fault fault), program) := by
  cases made <;> rfl

/-- Work on the vault is work on the depot. -/
theorem run_ofWork_useVault {α : Type} {handler : Handler} (h : program.Uses handler depot)
    (work : Handler → Action α) :
    ∃ after, (ofWork (Program.useVault work)).run program =
        (((work handler).run depot).1.mapError .failed, after) ∧
      after.Uses handler ((work handler).run depot).2 := by
  have hdepot : (⟨depot.records, program.site⟩ : Depot) = depot := by rw [h.site]
  rw [run_ofWork, Program.run_useVault, Program.run_vault_of_inUse h.vault]
  simp only [Vault.run, hdepot]
  exact ⟨_, rfl, rfl, rfl⟩

/-- What a request for a file that is there comes to. -/
def fromFolder (handler : LocalHandler) (files : FileTree) (method : String) (result : HeaderResult)
    (record : Record) : Except Trouble Response :=
  if result.status ≠ 0 then
    ((resultHeaders result).bind fun headers =>
      Response.whole? (result.status : Nat) headers none []).mapError fun fault =>
        .failed (.fault fault)
  else match handler.content record.location files with
    | .error fault => .error (.failed (LocalHandler.downloadFailure record fault))
    | .ok content =>
      (contentResponse method result.headers ⟨record, content⟩).mapError fun fault =>
        .failed (.fault fault)

/-- The request as a handler sees it. -/
def asked (request : Request) : FileRequest :=
  ⟨request.method, request.url, request.headers.inSmallLetters, true⟩

/-- **A file is served from a folder**: the URL leads to a record or not, and then its headers are
the answer or come before its content. -/
theorem serve_files {handler : LocalHandler} (h : program.Uses (.files handler) depot)
    {request : Request} (hasks : Handler.AsksForFile (asked request)) :
    ((serve request).run program).1 =
      match Handler.resolve depot.records handler.config.toServeConfig request.url with
      | .error failure => .error (.failed failure)
      | .ok (uid, record) => fromFolder handler depot.site.files request.method
          (handler.answer (asked request) (.file uid record
            (Handler.crossOrigin handler.config.toServeConfig (asked request)))) record := by
  obtain ⟨after, hheaders, hafter⟩ :=
    run_ofWork_useVault h fun handler => handler.headers (asked request)
  obtain ⟨calls, hrun⟩ := handler.run_headers_of_asksForFile hasks depot
  rw [Handler.headers, hrun] at hheaders hafter
  rw [serve, ExceptT.run_bind_state, show (⟨request.method, request.url,
    request.headers.inSmallLetters, true⟩ : FileRequest) = asked request from rfl, hheaders,
    show (asked request).url = request.url from rfl]
  rcases hfound : Handler.resolve depot.records handler.config.toServeConfig request.url with
    failure | ⟨uid, record⟩
  · rfl
  · simp only [Except.map, Except.mapError, fromFolder]
    split
    · rw [run_ofMade]
      rfl
    · -- the content is looked up in what the first look-up left
      obtain ⟨last, hdownload, -⟩ :=
        run_ofWork_useVault hafter fun handler => handler.download request.url
      rw [Handler.download, handler.run_download_eq, Depot.records_noting, Depot.files_noting,
        hfound] at hdownload
      rw [ExceptT.run_bind_state, hdownload]
      simp only [Except.bind]
      cases handler.content record.location depot.site.files with
      | error fault => rfl
      | ok content =>
          simp only [Except.mapError, run_ofMade]

/-- A complete answer to a request for a file brings no content. -/
theorem status_of_fromFolder {handler : LocalHandler} {files : FileTree} {method : String}
    {result : HeaderResult} {record : Record} {response : Response} (hstatus : result.status ≠ 0)
    (h : fromFolder handler files method result record = .ok response) :
    response.status = result.status := by
  rw [fromFolder, if_pos hstatus] at h
  rcases hgiven : resultHeaders result with fault | headers
  · rw [hgiven] at h
    cases h
  · rw [hgiven, Except.bind] at h
    rcases hmade : Response.whole? (result.status : Nat) headers none [] with fault | made
    all_goals
      rw [hmade] at h
      cases h
    exact status_of_make hmade

/-- **What comes of a file that is there** by either method agrees, if what is read of it has the
size in the record. -/
theorem fromFolder_agrees {handler : LocalHandler} {files : FileTree} {result : HeaderResult}
    {record : Record} (hstatus : result.status = 0 ∨ result.status = 304)
    (hnames : ∀ name value, (name, value) ∈ result.headers → Text.lower name ≠ lengthName)
    (hsize : ∀ content, handler.content record.location files = .ok content →
      record.size = content.length) :
    Agree (fromFolder handler files "GET" result record)
      (fromFolder handler files "HEAD" result record) := by
  rcases hstatus with hstatus | hstatus
  · have hcontinued : ¬ result.status ≠ 0 := not_not_intro hstatus
    rw [fromFolder, fromFolder, if_neg hcontinued, if_neg hcontinued]
    rcases hcontent : handler.content record.location files with fault | content
    · exact .failed _
    · exact (contentResponse_agrees ⟨record, content⟩ hnames (hsize content hcontent)).mapError _
  · -- the method does not matter for a complete answer
    have hcomplete : result.status ≠ 0 := by
      rw [hstatus]
      decide
    have hsame : fromFolder handler files "HEAD" result record =
        fromFolder handler files "GET" result record := by
      rw [fromFolder, fromFolder, if_pos hcomplete, if_pos hcomplete]
    rw [hsame]
    refine .refl fun response hresponse => ?_
    rw [status_of_fromFolder hcomplete hresponse, hstatus]
    decide

/-- Content is sent only of a file that can be read. -/
theorem exists_content_of_fromFolder {handler : LocalHandler} {files : FileTree} {method : String}
    {result : HeaderResult} {record : Record} {response : Response}
    (hstatus : result.status = 0 ∨ result.status = 304)
    (h : fromFolder handler files method result record = .ok response)
    (hsent : response.status = 200) :
    ∃ content, handler.content record.location files = .ok content := by
  rcases hstatus with hstatus | hstatus
  · rw [fromFolder, if_neg (not_not_intro hstatus)] at h
    rcases hcontent : handler.content record.location files with fault | content
    · rw [hcontent] at h
      cases h
    · exact ⟨content, rfl⟩
  · have hcomplete : result.status ≠ 0 := by
      rw [hstatus]
      decide
    rw [status_of_fromFolder hcomplete h, hstatus] at hsent
    exact absurd hsent (by decide)

/-- Neither method is a question of a browser, so the rules for other origins make no difference
between them. -/
theorem crossOrigin_head_get (config : ServeConfig) (request : Request) :
    Handler.crossOrigin config (asked { request with method := "HEAD" }) =
      Handler.crossOrigin config (asked { request with method := "GET" }) := by
  have hget : CrossOrigin.isPreflight (Text.upper "GET") = false := by decide
  have hhead : CrossOrigin.isPreflight (Text.upper "HEAD") = false := by decide
  simp only [Handler.crossOrigin, CrossOrigin.negotiate, asked, hget, hhead]

/-- **HEAD and GET agree.** Wherever a depot may get, a request by either method for the same URL
with the same headers fails in the same way, or the response to HEAD announces the response to GET;
and content is sent only of a file that is ready. -/
theorem head_like_get {handler : LocalHandler} {seen : List Uid} {depot : Depot} {program : Program}
    (hreached : Depot.Reached handler seen depot) (huses : program.Uses (.files handler) depot)
    (request : Request) :
    let get := ((serve { request with method := "GET" }).run program).1
    let head := ((serve { request with method := "HEAD" }).run program).1
    Agree get head ∧ ∀ response, get = .ok response → response.status = 200 →
      ∃ uid row, row.status = .ready ∧
        Handler.LeadsTo depot.records handler.config.toServeConfig request.url uid row := by
  intro get head
  let full : Request := { request with method := "GET" }
  let bare : Request := { request with method := "HEAD" }
  have hgets : Text.upper "GET" = "GET" := by decide
  have hheads : Text.upper "HEAD" = "HEAD" := by decide
  have hget : get = _ := serve_files huses (show Handler.AsksForFile (asked full) from .inl hgets)
  have hhead : head = _ :=
    serve_files huses (show Handler.AsksForFile (asked bare) from .inr hheads)
  -- neither the URL nor the answer of a handler depends on which of the two methods it is
  have hurl : full.url = request.url ∧ bare.url = request.url := ⟨rfl, rfl⟩
  rw [crossOrigin_head_get, hurl.2] at hhead
  rw [hurl.1] at hget
  rcases hfound : Handler.resolve depot.records handler.config.toServeConfig request.url with
    failure | ⟨uid, record⟩
  · rw [hget, hhead, hfound]
    exact ⟨.failed _, nofun⟩
  · have hleads := Handler.resolve_eq_ok_iff.mp hfound
    let result := handler.answer (asked full) (.file uid record
      (Handler.crossOrigin handler.config.toServeConfig (asked full)))
    have hget : get = fromFolder handler depot.site.files "GET" result record := by
      rw [hget, hfound]
    have hhead : head = fromFolder handler depot.site.files "HEAD" result record := by
      rw [hhead, hfound]
      rfl
    have hstatus : result.status = 0 ∨ result.status = 304 := handler.status_answer ..
    rw [hget, hhead]
    refine ⟨fromFolder_agrees hstatus (fun name value => LocalHandler.lower_of_mem_answer)
      fun content hcontent => (hreached.size_of_leadsTo hleads hcontent).2, ?_⟩
    intro response hresponse hsent
    obtain ⟨content, hcontent⟩ := exists_content_of_fromFolder hstatus hresponse hsent
    exact ⟨uid, record, (hreached.size_of_leadsTo hleads hcontent).1, hleads⟩

/-- A picture is uploaded. The GET request for it brings its three bytes, which the response to HEAD
announces. -/
theorem head_like_get_of_picture :
    let depot : Depot := Event.step {} ⟨.memory {}, {}⟩
      (.upload ⟨5⟩ (.ofBytes [97, 98, 99]) (some "image/png") none)
    let program : Program := .holding (.files {}) depot
    let request : Request := ⟨"GET", "/v0/file/s/BQAAAAAAAAA.png", "", [], []⟩
    Depot.Reached {} [⟨5⟩] depot ∧ program.Uses (.files {}) depot ∧
      ∃ full bare, ((serve request).run program).1 = .ok full ∧
        ((serve { request with method := "HEAD" }).run program).1 = .ok bare ∧
        full.status = 200 ∧ full.body = [97, 98, 99] ∧ bare.Announces full := by
  intro depot program request
  have hreached : Depot.Reached {} [⟨5⟩] depot :=
    .event (.idle (show RecordStore.Holds (.memory {}) {} from rfl) {})
      (.upload ⟨5⟩ (.ofBytes [97, 98, 99]) (some "image/png") none) (by decide) (by decide)
  have huses : program.Uses (.files {}) depot := Program.uses_holding _ depot
  have hsent : ((serve request).run program).1.toOption.map (fun full => (full.status, full.body)) =
      some (200, [97, 98, 99]) := by decide +kernel
  obtain ⟨full, hfull, hshown⟩ := Option.map_eq_some_iff.mp hsent
  obtain ⟨hstatus, hbody⟩ := Prod.ext_iff.mp hshown
  obtain ⟨hagree, -⟩ := head_like_get hreached huses request
  obtain ⟨bare, hbare, hannounces⟩ := hagree.exists_announcement (ok_of_toOption hfull)
  exact ⟨hreached, huses, full, bare, ok_of_toOption hfull, hbare, hstatus, hbody, hannounces⟩

end Http.App

end MediaDepot
