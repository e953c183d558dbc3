import MediaDepot.Proofs.Documents
import MediaDepot.Proofs.HeadRequests

/-!
# MediaDepot.Proofs.Envelopes

**What an envelope says and what does not count as one.** A body is in the envelope of a failure if
it is the document of an object with the right fields, in whatever order they stand (`InEnvelope`).
What the program says of a failure is in the envelope (`inEnvelope_of_isFailure`); what the
framework around it says is not (`not_inEnvelope_of_isPlain`). A request in trouble is told of it in
the framework's own form just when its form cannot be read (`App.of_troubleResponse`).
-/

namespace MediaDepot.Http

/-! ### Envelopes -/

/-- **The fields of an object tell of a failure** of the request with this id. -/
structure FailureFields (id message : String) (code details : Json) (fields : Fields) : Prop where
  success : fields.get? "success" = some (.bool false)
  message : fields.get? "message" = some (.str message)
  data : ∃ data, fields.get? "data" = some (.obj data) ∧ Fields.get? data "code" = some code ∧
    Fields.get? data "details" = some details
  requestId : fields.get? "requestId" = some (.str id)

/-- **The body tells of a failure**: it is the document of an object with the fields for it. -/
def TellsFailure (id message : String) (code details : Json) (body : Bytes) : Prop :=
  ∃ fields, FailureFields id message code details fields ∧ body = Text.utf8 (Json.obj fields).render

/-- **The body is in the envelope** for a failure of the request with this id. -/
def InEnvelope (id : String) (body : Bytes) : Prop :=
  ∃ message code details, message ≠ "" ∧ TellsFailure id message code details body

theorem idField_of_ne {id : String} (hid : id ≠ "") :
    idField (some id) = [("requestId", .str id)] := by
  simp [idField, hid]

/-- The fields of an envelope are for others, and so is all of its data but for what is internal. -/
theorem publicPart_envelope {id : String} (hid : id ≠ "") (succeeded : Bool) (message : String)
    (data : Json) : publicPart (envelope succeeded message data (some id)) =
      envelope succeeded message (publicPart data) (some id) := by
  have hsuccess : isInternal "success" = false := by decide
  have hmessage : isInternal "message" = false := by decide
  have hdata : isInternal "data" = false := by decide
  have hrequestId : isInternal "requestId" = false := by decide
  simp [publicPart, envelope, idField_of_ne hid, Json.without, Json.withoutInFields, hsuccess,
    hmessage, hdata, hrequestId]

theorem publicPart_errorData (code details : Json) :
    publicPart (errorData code details) = errorData (publicPart code) (publicPart details) := by
  have hcode : isInternal "code" = false := by decide
  have hdetails : isInternal "details" = false := by decide
  simp [publicPart, errorData, Json.without, Json.withoutInFields, hcode, hdetails]

theorem publicPart_str (text : String) : publicPart (.str text) = .str text := by
  simp [publicPart, Json.without]

/-- The envelope of a failure tells of it. -/
theorem tellsFailure_envelope {id : String} (hid : id ≠ "") (message : String)
    (code details : Json) : TellsFailure id message code details
      (Text.utf8 (failure message (errorData code details) (some id)).render) := by
  refine ⟨[("success", .bool false), ("message", .str message), ("data", errorData code details),
    ("requestId", .str id)], ⟨rfl, rfl, ⟨_, rfl, rfl, rfl⟩, rfl⟩, ?_⟩
  rw [failure, envelope, idField_of_ne hid]
  rfl

/-- In a body in the envelope, a colon follows on the name of its first field. -/
theorem infix_of_inEnvelope {id text : String} (h : InEnvelope id (Text.utf8 text)) :
    ['s', '"', ':'] <:+: text.toList := by
  obtain ⟨message, code, details, -, fields, hfields, hbody⟩ := h
  have hend : ['s', '"', ':'] <:+: (Json.renderText "success").toList ++ [':'] :=
    List.IsSuffix.isInfix (by decide)
  rw [Text.utf8_injective hbody]
  exact hend.trans (Json.renderText_infix_of_get hfields.success)

theorem not_inEnvelope_nil (id : String) : ¬ InEnvelope id [] := by
  intro h
  have hinfix : ['s', '"', ':'] <:+: "".toList :=
    infix_of_inEnvelope (show InEnvelope id (Text.utf8 "") from h)
  simp at hinfix

/-! ### The framework's own form -/

/-- The document in which the framework says why it refuses a request. -/
def plainDocument (detail : String) : Json := .obj [("detail", .str detail)]

/-- **The body is in the framework's own form.** -/
def IsPlain (body : Bytes) : Prop := ∃ detail, body = Text.utf8 (plainDocument detail).render

/-- **What the framework says is not in the envelope**, whatever it says. -/
theorem not_inEnvelope_of_isPlain {body : Bytes} (h : IsPlain body) (id : String) :
    ¬ InEnvelope id body := by
  obtain ⟨detail, rfl⟩ := h
  intro henvelope
  exact Json.not_infix_render_singleton (by decide) (by decide) (infix_of_inEnvelope henvelope)

/-! ### Responses with documents -/

/-- A response is made if its headers and its type can be written. -/
theorem exists_of_make {headers given : Headers} {mediaType : Option String} (status : Int)
    (length : Option Nat) (body : Bytes) (hgiven : encodeHeaders headers = .ok given)
    (htype : (mediaType.map contentType).bind latin1Fault? = none) :
    ∃ sent, Response.make? status headers mediaType length body = .ok ⟨status, sent, body⟩ := by
  unfold Response.make?
  simp only [hgiven, bind, Except.bind]
  rw [show (mediaType.map contentType).bind latin1Fault? = none from htype]
  exact ⟨_, rfl⟩

theorem body_of_make {status : Int} {headers : Headers} {mediaType : Option String}
    {length : Option Nat} {body : Bytes} {response : Response}
    (h : Response.make? status headers mediaType length body = .ok response) :
    response.body = body := by
  obtain ⟨given, announced, -, rfl⟩ := of_make h
  rfl

/-- A response with a document is made if the document and the headers can be written. -/
theorem exists_of_document {headers given : Headers} {document : Json} (status : Int)
    (hgiven : encodeHeaders headers = .ok given) (hfinite : isFinite document = true) :
    ∃ sent, Response.document? status headers document =
      .ok ⟨status, sent, Text.utf8 document.render⟩ := by
  rw [Response.document?, if_pos hfinite]
  exact exists_of_make _ _ _ hgiven (by decide +kernel)

theorem of_document {status : Int} {headers : Headers} {document : Json} {response : Response}
    (h : Response.document? status headers document = .ok response) :
    response.status = status ∧ response.body = Text.utf8 document.render := by
  rw [Response.document?] at h
  split at h
  · exact ⟨status_of_make h, body_of_make h⟩
  · cases h

/-- **The response tells of a failure** in an envelope of the program. -/
def IsFailure (id : String) (response : Response) : Prop :=
  400 ≤ response.status ∧ ∃ message code details, message ≠ "" ∧
    response.body = Text.utf8 (failure message (errorData code details) (some id)).render

theorem inEnvelope_of_isFailure {id : String} (hid : id ≠ "") {response : Response}
    (h : IsFailure id response) : InEnvelope id response.body := by
  obtain ⟨-, message, code, details, hmessage, hbody⟩ := h
  exact ⟨message, code, details, hmessage, hbody ▸ tellsFailure_envelope hid message code details⟩

/-- What is made of an error is in an envelope. -/
theorem of_errorResponse {id : String} (hid : id ≠ "") {status : Int} {message : String}
    {code details : Json} {headers : Headers} {response : Response}
    (h : errorResponse? status message (errorData code details) headers (some id) = .ok response) :
    response.status = status ∧ response.body = Text.utf8
      (failure message (errorData (publicPart code) (publicPart details)) (some id)).render := by
  rw [errorResponse?, envelopeResponse?, failure, publicPart_envelope hid,
    publicPart_errorData] at h
  exact of_document h

theorem isFailure_of_errorResponse {id : String} (hid : id ≠ "") {status : Int} {message : String}
    {code details : Json} {headers : Headers} {response : Response} (hstatus : 400 ≤ status)
    (hmessage : message ≠ "")
    (h : errorResponse? status message (errorData code details) headers (some id) = .ok response) :
    IsFailure id response := by
  obtain ⟨hsame, hbody⟩ := of_errorResponse hid h
  exact ⟨hsame ▸ hstatus, message, _, _, hmessage, hbody⟩

/-! ### Errors of the application -/

namespace RequestError

/-- **An error of the application**: it has a code, and a message that says something. -/
structure IsOwn (error : RequestError) (code : ErrorCode) (message : String) (details : Json) :
    Prop where
  eq : error = ofCode error.status code message details none
  message : Text.isBlankText message = false
  status : 400 ≤ error.status

theorem IsOwn.message_ne {error : RequestError} {code : ErrorCode} {message : String}
    {details : Json} (h : error.IsOwn code message details) : message ≠ "" := by
  rintro rfl
  exact absurd h.message (by decide)

/-- The detail of an error of the application is taken apart again as it was put together. -/
theorem IsOwn.respond_eq {error : RequestError} {code : ErrorCode} {message : String}
    {details : Json} (h : error.IsOwn code message details) (id : String) :
    error.respond? (some id) =
      errorResponse? error.status message (errorData (.str code.text) details) [] (some id) := by
  have hdescribe : describe (ofCode error.status code message details none).detail =
      (message, errorData (.str code.text) details) := by
    simp [describe, ofCode, Fields.get?, List.lookup_cons, h.message]
  rw [h.eq, respond?, hdescribe]
  rfl

theorem IsOwn.isFailure {error : RequestError} {code : ErrorCode} {message : String}
    {details : Json}
    (h : error.IsOwn code message details) {id : String} (hid : id ≠ "") {response : Response}
    (hresponse : error.respond? (some id) = .ok response) : IsFailure id response := by
  rw [h.respond_eq] at hresponse
  exact isFailure_of_errorResponse hid h.status h.message_ne hresponse

/-- The code under which a media error is shown. -/
def codeOf : MediaError → ErrorCode
  | .notFound _ _ => .resourceNotFound
  | .unsupported _ => .mediaUnsupported
  | .backend _ | .batch _ => .mediaBackendError
  | .config _ | .other _ => .internalError

/-- **A media error** is shown as an error of the application. -/
theorem isOwn_ofMedia (error : MediaError) :
    ∃ message details, (ofMedia error).IsOwn (codeOf error) message details := by
  have hnotFound : Text.isBlankText ("File" ++ " not found") = false := by decide
  have hunsupported : Text.isBlankText "Operation not supported" = false := by decide
  have hbackend : Text.isBlankText "Storage backend error" = false := by decide
  have hinternal : Text.isBlankText "Internal Server Error" = false := by decide
  have hstatus : (400 : Int) ≤ 404 ∧ (400 : Int) ≤ 500 ∧ (400 : Int) ≤ 501 ∧ (400 : Int) ≤ 502 := by
    decide
  cases error with
  | notFound id cause => exact ⟨_, _, rfl, hnotFound, hstatus.1⟩
  | unsupported operation => exact ⟨_, _, rfl, hunsupported, hstatus.2.2.1⟩
  | backend error => exact ⟨_, _, rfl, hbackend, hstatus.2.2.2⟩
  | batch failures => exact ⟨_, _, rfl, hbackend, hstatus.2.2.2⟩
  | config error => exact ⟨_, _, rfl, hinternal, hstatus.2.1⟩
  | other message => exact ⟨_, _, rfl, hinternal, hstatus.2.1⟩

end RequestError

/-! ### Requests in trouble -/

namespace App

/-- Of a loose text only the one response counts that shows the text. -/
theorem of_looseResponse {respond? : String → Except Fault Response} {text : LooseText}
    {response : Response} (h : looseResponse? respond? text = .ok response) :
    ∃ shown, respond? shown = .ok response := by
  unfold looseResponse? at h
  split at h
  · rcases hone : respond? (text.shownWith 'a') with fault | one
    all_goals rw [hone] at h
    · cases h
    · rcases hother : respond? (text.shownWith 'b') with fault | other
      all_goals
        rw [hother] at h
        cases h
  · exact ⟨_, h⟩

theorem isFailure_of_invalid {id : String} (hid : id ≠ "") {details : Json} {response : Response}
    (h : invalid? id details = .ok response) : IsFailure id response :=
  isFailure_of_errorResponse hid (by decide) (by decide) h

theorem isOwn_emptyUpload (name : String) :
    ∃ message details, (emptyUpload name).IsOwn .mediaUploadInvalid message details :=
  ⟨_, _, rfl, by decide, Int.le_refl 400⟩

/-- **A request in trouble** is told of it in an envelope, unless its form cannot be read. -/
theorem of_troubleResponse {id : String} (hid : id ≠ "") {trouble : Trouble} {response : Response}
    (h : troubleResponse id trouble = .ok response) :
    IsFailure id response ∨ ∃ fault, trouble = .unreadable fault := by
  cases trouble with
  | unreadable fault => exact .inr ⟨fault, rfl⟩
  | fileMissing => exact .inl (isFailure_of_invalid hid h)
  | fileIsText text =>
      rw [troubleResponse] at h
      obtain ⟨shown, hshown⟩ := of_looseResponse h
      exact .inl (isFailure_of_invalid hid hshown)
  | fileEmpty name =>
      rw [troubleResponse] at h
      obtain ⟨shown, hshown⟩ := of_looseResponse h
      obtain ⟨message, details, hown⟩ := isOwn_emptyUpload shown
      exact .inl (hown.isFailure hid hshown)
  | failed failure =>
      cases failure with
      | fault fault => cases h
      | media error =>
          obtain ⟨message, details, hown⟩ := RequestError.isOwn_ofMedia error
          exact .inl (hown.isFailure hid h)

/-- A fault that nobody expected is told of in an envelope. -/
theorem isFailure_lastResort (settings : Settings) (id : String) (fault : Fault) :
    IsFailure id (lastResort settings id fault) :=
  ⟨show (400 : Int) ≤ 500 by decide, _, _, _, by decide, rfl⟩

/-- **A refusal by the framework** is made, in its own form. -/
theorem exists_plainRefusal {headers given : Headers} (status : Int) (detail : String)
    (hgiven : encodeHeaders headers = .ok given) :
    ∃ response, plainRefusal status detail headers = .ok response ∧ response.status = status ∧
      IsPlain response.body := by
  have hfinite : isFinite (plainDocument detail) = true := by
    simp [plainDocument, isFinite, areFiniteFields]
  obtain ⟨sent, hsent⟩ := exists_of_document status hgiven hfinite
  exact ⟨_, hsent, rfl, detail, rfl⟩

end App

end MediaDepot.Http
