import MediaDepot.Proofs.Envelopes

/-!
# MediaDepot.Proofs.Exchanges

**What the answer to a request may be, whatever lies behind the routes.** The routes reach files
through four kinds of work, which may give anything and fail in any way (`Backing`); with those of a
vault they are the routes of the program (`App.respondBy_vault`). Then every answer comes about in
one of a few ways (`App.Exchange`, `App.exchange_dispatchBy`), and an error is told in the envelope
unless the framework refuses the request by itself or the work behind the routes made the refusal
(`App.error_enveloped_iff`).
-/

namespace MediaDepot.Http

open Program

/-- **What lies behind the routes.** -/
structure Backing where
  /-- The headers for a request. -/
  headers : FileRequest → Work HeaderResult
  /-- The content of the file of a URL. -/
  download : String → Work Download
  /-- Takes a file of a type from a user. -/
  upload : Source → Option String → Option String → Work Receipt
  /-- The name under which it is known. -/
  backendName : Work String

/-- A vault behind the routes. -/
def Backing.vault : Backing where
  headers asked := useVault fun handler => handler.headers asked
  download url := useVault fun handler => handler.download url
  upload := Program.upload
  backendName := do return (← Program.vault).handler.backend.name

namespace App

/-! ### Routes over any backing -/

/-- The response of a handler that answers completely. -/
def completeResponse (result : HeaderResult) : Except Fault Response :=
  (resultHeaders result).bind fun headers =>
    Response.whole? (result.status : Nat) headers none []

/-- Serves a file. -/
def serveBy (behind : Backing) (request : Request) : Step Response := do
  let result ← ofWork (behind.headers (asked request))
  if result.status ≠ 0 then ofMade (completeResponse result)
  else
    let download ← ofWork (behind.download request.url)
    ofMade (contentResponse request.method result.headers download)

/-- What is said of a new file. -/
def receiptResponse (requestId : String) (receipt : Receipt) : Except Fault Response :=
  (Outcome.value receipt.toJson).respond? "File uploaded" 201 (some requestId)

/-- Takes a file. -/
def takeBy (behind : Backing) (request : Request) (requestId : String) : Step Response := do
  let (name, given, content) ← ExceptT.mk (pure (fileOf request))
  if content.isEmpty then throw (.fileEmpty name)
  let user := request.header? "x-user-id"
  let receipt ← ofWork (behind.upload (.ofBytes content) (typeOf name.shown given) user)
  ofMade (receiptResponse requestId receipt)

/-- The state of a program that works with this backend. -/
def stateDocument (backend : String) (program : Program) : Json := .obj [
  ("status", .str "healthy"),
  ("media_handler", .str backend),
  ("gc_scheduler", .str (if program.sweeper.isSome then "running" else "stopped"))]

/-- Tells the state of the program. -/
def healthBy (behind : Backing) : Step Response := do
  let backend ← ofWork behind.backendName
  ofMade (Response.document? 200 [] (stateDocument backend (← get)))

/-- What the route of a request gives. -/
def dispatchBy (behind : Backing) (request : Request) (requestId : String) : Step Response :=
  match Route.ofPath? request.path with
  | none => ofMade (unrouted request)
  | some route =>
    if !route.methods.contains request.method then
      ofMade (plainRefusal 405 (phrase 405) [("allow", ", ".intercalate route.methods)])
    else match route with
      | .serve => serveBy behind request
      | .take => takeBy behind request requestId
      | .health => healthBy behind

/-- The answer to a request. -/
def respondBy (behind : Backing) (settings : Settings) (request : Request) :
    StateM Program Answer := do
  let requestId ← requestIdOf request
  return conclude settings requestId (← (dispatchBy behind request requestId).run)

theorem healthBy_vault : healthBy .vault = health := by
  funext program
  show (healthBy .vault).run program = health.run program
  rw [healthBy, health, ExceptT.run_bind_state, ExceptT.run_bind_state, run_ofWork, run_ofWork,
    Backing.vault, ExceptT.run_bind_state]
  rcases Program.vault.run program with ⟨failure | vault, after⟩ <;> rfl

/-- **With a vault behind them, the routes are those of the program.** -/
theorem respondBy_vault : respondBy .vault = respond := by
  have hdispatch : dispatchBy .vault = dispatch := by
    funext request requestId
    unfold dispatchBy dispatch
    rw [healthBy_vault]
    rfl
  unfold respondBy respond
  rw [hdispatch]

/-! ### Refusals -/

/-- **The framework refuses the request**: no route takes its path, or its method, or the form in it
cannot be read. -/
def IsRefused (request : Request) : Prop :=
  match Route.ofPath? request.path with
  | none => True
  | some route => request.method ∉ route.methods ∨
      route = .take ∧ ∃ fault, Form.parts request = .error fault

/-- **The handler refuses the request** by a complete answer with a status of an error. -/
def Declines (behind : Backing) (request : Request) (program : Program) : Prop :=
  Route.ofPath? request.path = some .serve ∧ ∃ result response,
    ((behind.headers (asked request)).run program).1 = .ok result ∧ 400 ≤ result.status ∧
      completeResponse result = .ok response

/-- **The program itself tells what comes of the request.** -/
structure Heard (behind : Backing) (request : Request) (program : Program) : Prop where
  taken : ¬ IsRefused request
  undeclined : ¬ Declines behind request program

variable {behind : Backing} {request : Request} {program : Program} {id : String}

theorem not_isRefused {route : Route} (hroute : Route.ofPath? request.path = some route)
    (hmethod : request.method ∈ route.methods)
    (hform : route = .take → ∃ parts, Form.parts request = .ok parts) : ¬ IsRefused request := by
  rw [IsRefused, hroute]
  rintro (hother | ⟨htake, fault, hfault⟩)
  · exact hother hmethod
  · obtain ⟨parts, hparts⟩ := hform htake
    rw [hparts] at hfault
    cases hfault

/-- Only the route that serves files leaves the answer to the handler. -/
theorem heard_of_other {route : Route} (hroute : Route.ofPath? request.path = some route)
    (hother : route ≠ .serve) (htaken : ¬ IsRefused request) : Heard behind request program := by
  refine ⟨htaken, fun hdeclines => hother ?_⟩
  exact Option.some.inj (hroute.symm.trans hdeclines.1)

/-! ### Answers -/

/-- **How the answer to a request comes about.** -/
inductive Exchange (behind : Backing) (request : Request) (program : Program) (id : String) :
    Except Fault Response → Prop where
  /-- The framework refuses the request. -/
  | refused {response : Response} (refused : IsRefused request) (status : 400 ≤ response.status)
    (plain : IsPlain response.body) : Exchange behind request program id (.ok response)
  /-- The handler refuses the request. -/
  | declined {response : Response} (declines : Declines behind request program)
    (empty : response.body = []) : Exchange behind request program id (.ok response)
  /-- There is nothing to be sent. -/
  | bare {response : Response} (status : response.status < 400) (empty : response.body = []) :
    Exchange behind request program id (.ok response)
  /-- Content is sent. -/
  | content {response : Response} (route : Route.ofPath? request.path = some .serve)
    (status : response.status = 200) : Exchange behind request program id (.ok response)
  /-- The state of the program is told. -/
  | state {response : Response} (status : response.status = 200) (backend : String)
      (after : Program)
    (body : response.body = Text.utf8 (stateDocument backend after).render) :
    Exchange behind request program id (.ok response)
  /-- A file was taken. -/
  | taken {response : Response} (status : response.status = 201) (message : String) (data : Json)
    (body : response.body = Text.utf8 (success data message (some id)).render) :
    Exchange behind request program id (.ok response)
  /-- A failure is told of. -/
  | failed {response : Response} (heard : Heard behind request program)
    (failure : IsFailure id response) : Exchange behind request program id (.ok response)
  /-- Something happened that nobody expected. -/
  | broken (heard : Heard behind request program) (fault : Fault) :
    Exchange behind request program id (.error fault)

/-- What is made of what a route gives. -/
def made (id : String) : Except Trouble Response → Except Fault Response
  | .ok response => .ok response
  | .error trouble => troubleResponse id trouble

theorem made_ofMade (id : String) (outcome : Except Fault Response) :
    made id (outcome.mapError fun fault => .failed (.fault fault)) = outcome := by
  cases outcome <;> rfl

/-- Of trouble with a request that is heard, the program tells itself. -/
theorem exchange_of_trouble (hid : id ≠ "") (heard : Heard behind request program)
    {trouble : Trouble} (hform : ∀ fault, trouble ≠ .unreadable fault) :
    Exchange behind request program id (troubleResponse id trouble) := by
  rcases hmade : troubleResponse id trouble with fault | response
  · exact .broken heard fault
  · rcases of_troubleResponse hid hmade with hfailure | ⟨fault, htrouble⟩
    · exact .failed heard hfailure
    · exact absurd htrouble (hform fault)

theorem exchange_of_failure (hid : id ≠ "") (heard : Heard behind request program)
    (failure : Failure) :
    Exchange behind request program id (troubleResponse id (.failed failure)) :=
  exchange_of_trouble hid heard fun _ => Trouble.noConfusion

theorem lt_of_staysInUrl {c : Char} (h : staysInUrl c = true) : c.toNat < 256 := by
  rw [staysInUrl, Bool.or_eq_true] at h
  rcases h with halnum | hsign
  · exact Nat.lt_trans (Url.toNat_lt_of_isAlphanum halnum) (by decide)
  · have hsigns : ("_.-~:/%#?=@[]!$&'()*+,;".toList.all fun sign => sign.toNat < 256) = true := rfl
    simpa using List.all_eq_true.mp hsigns c (List.contains_iff_mem.mp hsign)

theorem lt_of_mem_hexPair {b : UInt8} {c : Char} (h : c ∈ (Bytes.hexPair b).map Char.toUpper) :
    c.toNat < 256 := by
  have hdigits : ∀ n : Fin 16, (Bytes.hexDigit n.1).toUpper.toNat < 256 := by decide
  have hhigh : b.toNat / 16 < 16 := Nat.div_lt_of_lt_mul b.toNat_lt
  have hlow : b.toNat % 16 < 16 := Nat.mod_lt _ (by decide)
  simp only [Bytes.hexPair, List.map_cons, List.map_nil, List.mem_cons, List.not_mem_nil,
    or_false] at h
  rcases h with rfl | rfl
  · exact hdigits ⟨_, hhigh⟩
  · exact hdigits ⟨_, hlow⟩

/-- The URL to which a client is sent can be written. -/
theorem latin1Fault?_escapeUrl (url : String) : latin1Fault? (escapeUrl url) = none := by
  rw [latin1Fault?_eq_none_iff]
  intro c hc
  rw [escapeUrl, String.toList_ofList, List.mem_flatMap] at hc
  obtain ⟨d, -, hd⟩ := hc
  split at hd
  · next hstays =>
      rw [List.mem_singleton.mp hd]
      exact lt_of_staysInUrl hstays
  · obtain ⟨b, -, hb⟩ := List.mem_flatMap.mp hd
    rcases List.mem_cons.mp hb with rfl | hb
    · decide
    · exact lt_of_mem_hexPair hb

/-- **A request that no route takes** is sent to another path, or refused by the framework. -/
theorem exchange_unrouted (hroute : Route.ofPath? request.path = none) :
    Exchange behind request program id (unrouted request) := by
  have hrefused : IsRefused request := by
    rw [IsRefused, hroute]
    trivial
  unfold unrouted
  dsimp only
  split
  · have hname : Text.lower "location" = "location" := by decide
    have hlatin : latin1Fault? "location" = none := by decide
    have hgiven : ∃ given, encodeHeaders
        [("location", escapeUrl (request.urlOf (Route.otherSlash request.path)))] = .ok given := by
      simp only [encodeHeaders, List.mapM_cons, List.mapM_nil, hname, hlatin,
        latin1Fault?_escapeUrl]
      exact ⟨_, rfl⟩
    obtain ⟨given, hgiven⟩ := hgiven
    obtain ⟨sent, hsent⟩ := exists_of_make 307 (some 0) [] hgiven
      (show (Option.map contentType none).bind latin1Fault? = none from rfl)
    rw [Response.whole?, List.length_nil, hsent]
    exact .bare (show (307 : Int) < 400 by decide) rfl
  · obtain ⟨response, hmade, hstatus, hplain⟩ := exists_plainRefusal 404 (phrase 404)
      (show encodeHeaders [] = .ok [] from rfl)
    rw [hmade]
    exact .refused hrefused (by rw [hstatus]; decide) hplain

/-- **A request by another method** is refused by the framework. -/
theorem exchange_methodNotAllowed {route : Route} (hroute : Route.ofPath? request.path = some route)
    (hmethod : request.method ∉ route.methods) :
    Exchange behind request program id
      (plainRefusal 405 (phrase 405) [("allow", ", ".intercalate route.methods)]) := by
  have hrefused : IsRefused request := by
    rw [IsRefused, hroute]
    exact .inl hmethod
  have hgiven : ∃ given, encodeHeaders [("allow", ", ".intercalate route.methods)] = .ok given := by
    cases route <;> exact ⟨_, rfl⟩
  obtain ⟨given, hgiven⟩ := hgiven
  obtain ⟨response, hmade, hstatus, hplain⟩ := exists_plainRefusal 405 (phrase 405) hgiven
  rw [hmade]
  exact .refused hrefused (by rw [hstatus]; decide) hplain

theorem exists_of_completeResponse {result : HeaderResult} {response : Response}
    (h : completeResponse result = .ok response) :
    ∃ headers, Response.whole? (result.status : Nat) headers none [] = .ok response := by
  rw [completeResponse] at h
  rcases hgiven : resultHeaders result with fault | headers
  all_goals rw [hgiven] at h
  · cases h
  · exact ⟨headers, h⟩

theorem status_of_contentResponse {method : String} {headers : Headers} {download : Download}
    {response : Response} (h : contentResponse method headers download = .ok response) :
    response.status = 200 := by
  unfold contentResponse at h
  split at h
  · exact status_of_make h
  · exact status_of_make h

/-- The receipt is told in the envelope of a success. -/
theorem of_receiptResponse (hid : id ≠ "") {receipt : Receipt} {response : Response}
    (h : receiptResponse id receipt = .ok response) :
    response.status = 201 ∧ response.body =
      Text.utf8 (success (publicPart receipt.toJson) "File uploaded" (some id)).render := by
  rw [receiptResponse, Outcome.respond?, envelopeResponse?, success, publicPart_envelope hid] at h
  exact of_document h

/-- A form that can be read is not what is wrong with a request. -/
theorem ne_unreadable_of_fileOf {parts : List Part} {trouble : Trouble}
    (hparts : Form.parts request = .ok parts) (h : fileOf request = .error trouble)
    (fault : FormFault) :
    trouble ≠ .unreadable fault := by
  rintro rfl
  simp only [fileOf, hparts] at h
  split at h
  · cases h
  · split at h <;> cases h
  · split at h <;> cases h

/-- **A request for a file** brings what the handler answers, or the content of the file. -/
theorem exchange_serveBy (hid : id ≠ "") (hroute : Route.ofPath? request.path = some .serve)
    (hmethod : request.method ∈ Route.serve.methods) :
    Exchange behind request program id (made id ((serveBy behind request).run program).1) := by
  have htaken : ¬ IsRefused request := not_isRefused hroute hmethod nofun
  rw [serveBy, ExceptT.run_bind_state, run_ofWork]
  rcases hheaders : (behind.headers (asked request)).run program with ⟨failure | result, after⟩
  · -- without headers there is nothing by which the handler could refuse
    refine exchange_of_failure hid ⟨htaken, ?_⟩ failure
    rintro ⟨-, result, response, hresult, -⟩
    rw [hheaders] at hresult
    cases hresult
  · simp only [Except.mapError]
    have hsame {other : HeaderResult}
        (hother : ((behind.headers (asked request)).run program).1 = .ok other) :
          other = result := by
      rw [hheaders] at hother
      exact (Except.ok.inj hother).symm
    by_cases hcomplete : result.status ≠ 0
    · rw [if_pos hcomplete, run_ofMade, made_ofMade]
      rcases hmade : completeResponse result with fault | response
      · refine .broken ⟨htaken, ?_⟩ fault
        rintro ⟨-, other, response, hother, -, hresponse⟩
        rw [hsame hother, hmade] at hresponse
        cases hresponse
      · obtain ⟨headers, hwhole⟩ := exists_of_completeResponse hmade
        have hstatus : response.status = result.status := status_of_make hwhole
        have hbody : response.body = [] := body_of_make hwhole
        by_cases herror : 400 ≤ result.status
        · refine .declined ⟨hroute, result, response, ?_, herror, hmade⟩ hbody
          rw [hheaders]
        · exact .bare (by omega) hbody
    · have heard : Heard behind request program := by
        refine ⟨htaken, ?_⟩
        rintro ⟨-, other, response, hother, herror, -⟩
        rw [hsame hother] at herror
        omega
      rw [if_neg hcomplete, ExceptT.run_bind_state, run_ofWork]
      rcases (behind.download request.url).run after with ⟨failure | download, last⟩
      · exact exchange_of_failure hid heard failure
      · simp only [Except.mapError, run_ofMade]
        rcases hmade : contentResponse request.method result.headers download with fault | response
        · exact .broken heard fault
        · exact .content hroute (status_of_contentResponse hmade)

/-- **A request with a file** brings the receipt for it, unless its form cannot be read. -/
theorem exchange_takeBy (hid : id ≠ "") (hroute : Route.ofPath? request.path = some .take)
    (hmethod : request.method ∈ Route.take.methods) :
    Exchange behind request program id (made id ((takeBy behind request id).run program).1) := by
  rw [takeBy, ExceptT.run_bind_state]
  rcases hparts : Form.parts request with fault | parts
  · have hfile : fileOf request = .error (.unreadable fault) := by rw [fileOf, hparts]
    have hrefused : IsRefused request := by
      rw [IsRefused, hroute]
      exact .inr ⟨rfl, fault, hparts⟩
    obtain ⟨response, hmade, hstatus, hplain⟩ := exists_plainRefusal 400 fault.message
      (show encodeHeaders [] = .ok [] from rfl)
    rw [hfile]
    show Exchange behind request program id (plainRefusal 400 fault.message [])
    rw [hmade]
    exact .refused hrefused (by rw [hstatus]) hplain
  · have heard : Heard behind request program :=
      heard_of_other hroute (by decide) (not_isRefused hroute hmethod fun _ => ⟨parts, hparts⟩)
    rcases hfile : fileOf request with trouble | ⟨name, given, content⟩
    · exact exchange_of_trouble hid heard (ne_unreadable_of_fileOf hparts hfile)
    · rw [show (ExceptT.mk (pure (.ok (name, given, content))) : Step _).run program =
        (.ok (name, given, content), program) from rfl]
      dsimp only
      by_cases hempty : content.isEmpty = true
      · rw [if_pos hempty]
        show Exchange behind request program id (troubleResponse id (.fileEmpty name))
        exact exchange_of_trouble hid heard fun _ => Trouble.noConfusion
      · rw [if_neg hempty, ExceptT.run_bind_state, run_ofWork]
        rcases (behind.upload (.ofBytes content) (typeOf name.shown given)
          (request.header? "x-user-id")).run program with ⟨failure | receipt, after⟩
        · exact exchange_of_failure hid heard failure
        · simp only [Except.mapError, run_ofMade]
          rcases hmade : receiptResponse id receipt with fault | response
          · exact .broken heard fault
          · obtain ⟨hstatus, hbody⟩ := of_receiptResponse hid hmade
            exact .taken hstatus _ _ hbody

/-- **A question for the state of the program** is answered with it. -/
theorem exchange_healthBy (hid : id ≠ "") (hroute : Route.ofPath? request.path = some .health)
    (hmethod : request.method ∈ Route.health.methods) :
    Exchange behind request program id (made id ((healthBy behind).run program).1) := by
  have heard : Heard behind request program :=
    heard_of_other hroute (by decide) (not_isRefused hroute hmethod nofun)
  rw [healthBy, ExceptT.run_bind_state, run_ofWork]
  rcases behind.backendName.run program with ⟨failure | backend, after⟩
  · exact exchange_of_failure hid heard failure
  · simp only [Except.mapError]
    rw [ExceptT.run_bind_state, show (get : Step Program).run after = (.ok after, after) from rfl]
    simp only [run_ofMade, made_ofMade]
    rcases hmade : Response.document? 200 [] (stateDocument backend after) with fault | response
    · exact .broken heard fault
    · obtain ⟨hstatus, hbody⟩ := of_document hmade
      exact .state hstatus backend after hbody

/-- **Every answer** comes about in one of these ways. -/
theorem exchange_dispatchBy (hid : id ≠ "") :
    Exchange behind request program id
      (made id ((dispatchBy behind request id).run program).1) := by
  unfold dispatchBy
  rcases hroute : Route.ofPath? request.path with _ | route
  · dsimp only
    rw [run_ofMade, made_ofMade]
    exact exchange_unrouted hroute
  · by_cases hmethod : request.method ∈ route.methods
    · have hallowed : (!route.methods.contains request.method) = false := by simpa using hmethod
      simp only [hallowed, Bool.false_eq_true, if_false]
      cases route with
      | serve => exact exchange_serveBy hid hroute hmethod
      | take => exact exchange_takeBy hid hroute hmethod
      | health => exact exchange_healthBy hid hroute hmethod
    · have hother : (!route.methods.contains request.method) = true := by simpa using hmethod
      simp only [hother, if_true]
      rw [run_ofMade, made_ofMade]
      exact exchange_methodNotAllowed hroute hmethod

/-- The id of a request is the one it has, unless that is empty, or else a new one. -/
theorem run_requestIdOf (request : Request) (program : Program) :
    (∃ given, request.header? "X-Request-ID" = some given ∧ given ≠ "" ∧
      (requestIdOf request).run program = (given, program)) ∨
    ((∀ given, request.header? "X-Request-ID" = some given → given = "") ∧
      (requestIdOf request).run program = ("request-" ++ toString (program.requests + 1),
        { program with requests := program.requests + 1 })) := by
  rcases hheader : request.header? "X-Request-ID" with _ | given
  · refine .inr ⟨nofun, ?_⟩
    rw [requestIdOf, hheader]
    rfl
  · by_cases hempty : given = ""
    · refine .inr ⟨fun other hother => (Option.some.inj hother).symm.trans hempty, ?_⟩
      rw [requestIdOf, hheader, hempty]
      rfl
    · refine .inl ⟨given, rfl, hempty, ?_⟩
      have hgiven : given.isEmpty = false := by simpa using hempty
      simp only [requestIdOf, hheader, Option.getD_some, hgiven, Bool.false_eq_true, if_false]
      rfl

theorem requestIdOf_ne (request : Request) (program : Program) :
    ((requestIdOf request).run program).1 ≠ "" := by
  rcases run_requestIdOf request program with ⟨given, -, hne, hrun⟩ | ⟨-, hrun⟩
  · rw [hrun]
    exact hne
  · rw [hrun]
    simp

/-- The answer that comes of what was made. -/
def concluding (settings : Settings) (id : String) : Except Fault Response → Answer
  | .ok response => ⟨withId id response, none⟩
  | .error fault => ⟨lastResort settings id fault, some fault⟩

/-- **Whatever lies behind the routes**, the answer to a request comes about in one of the ways. -/
theorem exchange_respondBy (behind : Backing) (settings : Settings) (request : Request)
    (program : Program) :
    let begun := (requestIdOf request).run program
    let outcome := made begun.1 ((dispatchBy behind request begun.1).run begun.2).1
    Exchange behind request begun.2 begun.1 outcome ∧
      ((respondBy behind settings request).run program).1 =
        concluding settings begun.1 outcome := by
  intro begun outcome
  refine ⟨exchange_dispatchBy (requestIdOf_ne request program), ?_⟩
  show conclude settings begun.1 ((dispatchBy behind request begun.1).run begun.2).1 = _
  simp only [outcome]
  cases ((dispatchBy behind request begun.1).run begun.2).1 <;> rfl

/-! ### Errors in envelopes -/

/-- No handler answers with a status of an error. -/
theorem status_headers_lt {handler : Handler} {asked : FileRequest} {depot : Depot}
    {result : HeaderResult} (hmethod : asked.method ∈ Route.serve.methods)
    (h : ((handler.headers asked).run depot).1 = .ok result) : result.status < 400 := by
  have hcases := Handler.asksForFile_or_isPreflight hmethod
  cases handler with
  | bucket handler =>
      rcases hcases with hasks | hpreflight
      · rcases BucketHandler.status_of_asksForFile hasks h with hstatus | hstatus <;> omega
      · have hstatus := BucketHandler.status_of_preflight hpreflight h
        omega
  | files handler =>
      rw [Handler.headers] at h
      rcases hcases with hasks | hpreflight
      · obtain ⟨calls, hrun⟩ := handler.run_headers_of_asksForFile hasks depot
        rw [hrun] at h
        rcases hfound : Handler.resolve depot.records handler.config.toServeConfig asked.url with
          failure | ⟨uid, record⟩
        all_goals
          rw [hfound] at h
          cases h
        rcases handler.status_answer asked uid record _ with hstatus | hstatus
        all_goals
          rw [hstatus]
          decide
      · rw [handler.run_headers_eq, Handler.opening_of_preflight hpreflight] at h
        cases h
        exact (by decide : 204 < 400)

/-- **A vault refuses no request**: all that the framework lets through are heard. -/
theorem heard_vault (htaken : ¬ IsRefused request) : Heard .vault request program := by
  refine ⟨htaken, ?_⟩
  rintro ⟨hroute, result, response, hresult, herror, -⟩
  have hmethod : (asked request).method ∈ Route.serve.methods := by
    by_contra hother
    rw [IsRefused, hroute] at htaken
    exact htaken (.inl hother)
  rcases hrun : (useVault fun handler => handler.headers (asked request)).run program with
    ⟨failure | other, after⟩
  all_goals rw [Backing.vault, hrun] at hresult
  · cases hresult
  · cases hresult
    obtain ⟨vault, depot, -, hheaders⟩ := exists_of_useVault hrun
    have hbelow := status_headers_lt hmethod hheaders
    omega

/-- **Errors in envelopes.** Whatever lies behind the routes, an answer with the status of an error
is in the envelope, with the id of its request, just when the program itself tells the error. With a
vault behind the routes, these are all requests but those that the framework refuses in its own
form. -/
theorem error_enveloped_iff (behind : Backing) (settings : Settings) (request : Request)
    (program : Program) :
    let begun := (requestIdOf request).run program
    let response := ((respondBy behind settings request).run program).1.response
    (400 ≤ response.status →
      (InEnvelope begun.1 response.body ↔ Heard behind request begun.2)) ∧
    (Heard .vault request begun.2 ↔ ¬ IsRefused request) ∧ respondBy .vault = respond := by
  intro begun response
  refine ⟨fun herror => ?_, ⟨Heard.taken, heard_vault⟩, respondBy_vault⟩
  have hid : begun.1 ≠ "" := requestIdOf_ne request program
  obtain ⟨hexchange, hanswer⟩ := exchange_respondBy behind settings request program
  generalize made begun.1 ((dispatchBy behind request begun.1).run begun.2).1 = outcome
    at hexchange hanswer
  have hresponse : response = (concluding settings begun.1 outcome).response :=
    congrArg Answer.response hanswer
  rw [hresponse] at herror ⊢
  cases hexchange with
  | refused hrefused _ hplain =>
      exact ⟨fun h => absurd h (not_inEnvelope_of_isPlain hplain _),
        fun h => absurd hrefused h.taken⟩
  | declined hdeclines hempty =>
      refine ⟨fun h => absurd h ?_, fun h => absurd hdeclines h.undeclined⟩
      simp only [concluding, withId, hempty]
      exact not_inEnvelope_nil _
  | failed heard hfailure => exact ⟨fun _ => heard, fun _ => inEnvelope_of_isFailure hid hfailure⟩
  | broken heard fault =>
      exact ⟨fun _ => heard, fun _ => inEnvelope_of_isFailure hid (isFailure_lastResort ..)⟩
  | bare hstatus _ => exact absurd herror (Int.not_le.mpr hstatus)
  | content _ hstatus | state hstatus _ _ _ | taken hstatus _ _ _ =>
      -- what is sent for a success has no status of an error
      simp only [concluding, withId, hstatus] at herror
      exact absurd herror (by decide)

/-- Nobody knows the file that a client asks for. -/
theorem error_enveloped_iff_of_unknown_file :
    let program : Program := .holding (.files {}) ⟨.memory {}, {}⟩
    let request : Request := ⟨"GET", "/v0/file/s/BQAAAAAAAAA", "", [("X-Request-ID", "r")], []⟩
    let response := ((respondBy .vault default request).run program).1.response
    response.status = 404 ∧ InEnvelope "r" response.body := by
  intro program request response
  have hstatus : response.status = 404 := by
    rw [show response = ((respond default request).run program).1.response by
      rw [← respondBy_vault]]
    decide +kernel
  have hbegun : (requestIdOf request).run program = ("r", program) := rfl
  obtain ⟨henveloped, hheard, -⟩ := error_enveloped_iff .vault default request program
  refine ⟨hstatus, ?_⟩
  rw [hbegun] at henveloped hheard
  refine (henveloped (hstatus ▸ by decide)).mpr (hheard.mpr ?_)
  exact not_isRefused (show Route.ofPath? request.path = some .serve by decide) (by decide) nofun

/-- **A path that leads nowhere** is refused without an envelope. -/
theorem error_not_enveloped_unknown_path :
    let request : Request := ⟨"GET", "/nope", "", [("X-Request-ID", "req-1")], []⟩
    let response := ((respond default request).run {}).1.response
    response.status = 404 ∧ response.body = Text.utf8 "\x7b\"detail\":\"Not Found\"\x7d" ∧
      ¬ InEnvelope "req-1" response.body := by
  intro request response
  have hbody : response.body = Text.utf8 (plainDocument (phrase 404)).render := by decide +kernel
  refine ⟨by decide +kernel, by decide +kernel, ?_⟩
  exact not_inEnvelope_of_isPlain ⟨phrase 404, hbody⟩ "req-1"

end App

end MediaDepot.Http
