import MediaDepot.Proofs.Envelopes

/-!
# MediaDepot.Proofs.Discretion

**What clients learn of failures.** Of a media error they learn its kind, its code and what it was
about, and nothing of its words, of the key in the store, or of what led to it
(`RequestError.ofMedia_congr`). Of a fault that nobody expected they learn nothing, unless the
settings allow it (`App.lastResort_congr_iff`). If what the store said can be written at all, they
are told of a media error (`RequestError.IsOwn.exists_response`), in a response with the status of
its kind, whose data hold the code (`RequestError.tellsFailure_of_respond`).
-/

namespace MediaDepot

/-! ### Documents that can be written -/

namespace Json

open Http

mutual

/-- What can be written can be written without some of its fields. -/
theorem isFinite_without (leftOut : String → Bool) :
    ∀ value : Json, isFinite value = true → isFinite (value.without leftOut) = true
  | .null, h | .bool _, h | .int _, h | .float _, h | .str _, h => h
  | .arr items, h => by
      simp only [without, isFinite] at h ⊢
      exact areFinite_without leftOut items h
  | .obj fields, h => by
      simp only [without, isFinite] at h ⊢
      exact areFiniteFields_without leftOut fields h

theorem areFinite_without (leftOut : String → Bool) :
    ∀ items : List Json, areFinite items = true → areFinite (withoutInItems leftOut items) = true
  | [], _ => rfl
  | item :: rest, h => by
      simp only [areFinite, withoutInItems, Bool.and_eq_true] at h ⊢
      exact ⟨isFinite_without leftOut item h.1, areFinite_without leftOut rest h.2⟩

theorem areFiniteFields_without (leftOut : String → Bool) :
    ∀ fields : List (String × Json), areFiniteFields fields = true →
      areFiniteFields (withoutInFields leftOut fields) = true
  | [], _ => rfl
  | (name, value) :: rest, h => by
      simp only [areFiniteFields, withoutInFields, Bool.and_eq_true] at h ⊢
      split
      · exact areFiniteFields_without leftOut rest h.2
      · simp only [areFiniteFields, Bool.and_eq_true]
        exact ⟨isFinite_without leftOut value h.1, areFiniteFields_without leftOut rest h.2⟩

end

theorem isFinite_of_get {fields : Fields} (h : areFiniteFields fields = true) {name : String}
    {value : Json} (hget : fields.get? name = some value) : isFinite value = true := by
  induction fields with
  | nil => cases hget
  | cons field fields ih =>
      obtain ⟨other, first⟩ := field
      simp only [areFiniteFields, Bool.and_eq_true] at h
      rw [Fields.get?, List.lookup_cons] at hget
      split at hget
      · obtain rfl := Option.some.inj hget
        exact h.1
      · exact ih h.2 hget

theorem areFinite_of_forall {items : List Json} (h : ∀ item ∈ items, isFinite item = true) :
    areFinite items = true := by
  induction items with
  | nil => rfl
  | cons item items ih =>
      rw [areFinite, h item List.mem_cons_self,
        ih fun other hother => h other (List.mem_cons_of_mem item hother)]
      rfl

end Json

/-! ### Media errors -/

namespace MediaError

/-- **Two errors are alike**: they are of one kind and about the same, whatever their words, keys
and causes are. -/
inductive Alike : MediaError → MediaError → Prop where
  | config (one other : ConfigError) : Alike (.config one) (.config other)
  | notFound (id : Option String) (one other : Option Fault) :
    Alike (.notFound id one) (.notFound id other)
  | unsupported (operation : String) : Alike (.unsupported operation) (.unsupported operation)
  | backend {one other : BackendError} (operation : one.operation = other.operation)
    (code : one.code = other.code) : Alike (.backend one) (.backend other)
  | batch (failures : List Undeleted) : Alike (.batch failures) (.batch failures)
  | other (one other : String) : Alike (.other one) (.other other)

/-- Can be written what the store said? -/
def isWritable : MediaError → Bool
  | .backend error => Http.isFinite error.code
  | .batch failures => failures.all Http.areFiniteFields
  | _ => true

theorem isFinite_batchCode {failures : List Undeleted}
    (h : failures.all Http.areFiniteFields = true) : Http.isFinite (batchCode failures) = true := by
  cases failures with
  | nil => rfl
  | cons first rest =>
      have hfirst : Http.areFiniteFields first = true :=
        List.all_eq_true.mp h first List.mem_cons_self
      cases hcode : Fields.get? first "code" with
      | none =>
          rw [show batchCode (first :: rest) = .null by simp [batchCode, hcode]]
          rfl
      | some code =>
          rw [show batchCode (first :: rest) = code by simp [batchCode, hcode]]
          exact Json.isFinite_of_get hfirst hcode

end MediaError

namespace Http

namespace RequestError

/-- **Errors that are alike are shown alike.** -/
theorem ofMedia_congr {one other : MediaError} (h : one.Alike other) :
    ofMedia one = ofMedia other := by
  cases h with
  | backend hoperation hcode => rw [ofMedia, ofMedia, hoperation, hcode]
  | _ => rfl

/-- The status under which a media error is shown. -/
def statusOf : MediaError → Int
  | .notFound _ _ => 404
  | .unsupported _ => 501
  | .backend _ | .batch _ => 502
  | .config _ | .other _ => 500

theorem status_ofMedia (error : MediaError) : (ofMedia error).status = statusOf error := by
  cases error <;> rfl

theorem isFinite_detail_ofMedia {error : MediaError} (h : error.isWritable = true) :
    isFinite (ofMedia error).detail = true := by
  cases error with
  | notFound id cause =>
      rcases id with _ | id
      · rfl
      · by_cases hempty : id = ""
        all_goals simp [ofMedia, notFound, ofCode, hempty, isFinite, areFiniteFields]
  | batch failures =>
      have hfailures : areFinite (failures.map .obj) = true := by
        refine Json.areFinite_of_forall fun item hitem => ?_
        obtain ⟨failure, hfailure, rfl⟩ := List.mem_map.mp hitem
        exact List.all_eq_true.mp h failure hfailure
      simp [ofMedia, ofBackend, ofCode, isFinite, areFiniteFields, hfailures,
        MediaError.isFinite_batchCode h]
  | backend error =>
      have hcode : isFinite error.code = true := h
      simp [ofMedia, ofBackend, ofCode, isFinite, areFiniteFields, hcode]
  | _ => rfl

/-- The response to an error of the application is made if its detail can be written. -/
theorem IsOwn.exists_response {error : RequestError} {code : ErrorCode} {message : String}
    {details : Json} (h : error.IsOwn code message details) (hfinite : isFinite error.detail = true)
    {id : String} (hid : id ≠ "") : ∃ response, error.respond? (some id) = .ok response := by
  have hdetails : isFinite (publicPart details) = true := by
    refine Json.isFinite_without _ _ ?_
    rw [h.eq] at hfinite
    simpa [ofCode, isFinite, areFiniteFields] using hfinite
  have hdocument : isFinite (failure message
      (errorData (.str code.text) (publicPart details)) (some id)) = true := by
    rw [failure, envelope, idField_of_ne hid]
    simp [errorData, isFinite, areFiniteFields, hdetails]
  obtain ⟨sent, hsent⟩ := exists_of_document error.status (show encodeHeaders [] = .ok [] from rfl)
    hdocument
  rw [h.respond_eq, errorResponse?, envelopeResponse?, failure, publicPart_envelope hid,
    publicPart_errorData, publicPart_str]
  exact ⟨_, hsent⟩

/-- **What is told of a media error** is a response with the status of its kind, and the code is in
its data. -/
theorem tellsFailure_of_respond {error : MediaError} {id : String} (hid : id ≠ "")
    {response : Response} (h : (ofMedia error).respond? (some id) = .ok response) :
    response.status = statusOf error ∧ ∃ message details, message ≠ "" ∧
      TellsFailure id message (.str (codeOf error).text) details response.body := by
  obtain ⟨message, details, hown⟩ := isOwn_ofMedia error
  rw [hown.respond_eq] at h
  obtain ⟨hstatus, hbody⟩ := of_errorResponse hid h
  rw [publicPart_str] at hbody
  refine ⟨hstatus.trans (status_ofMedia error), message, publicPart details, hown.message_ne, ?_⟩
  rw [hbody]
  exact tellsFailure_envelope hid message _ _

end RequestError

/-! ### Unexpected faults -/

namespace App

/-- What raises a fault is answered with the last resort. -/
theorem response_of_raised {settings : Settings} {id : String} {outcome : Except Trouble Response}
    (h : (conclude settings id outcome).raised ≠ none) :
    ∃ fault, (conclude settings id outcome).response = lastResort settings id fault := by
  cases outcome with
  | ok response => exact absurd rfl h
  | error trouble =>
      rw [conclude] at h ⊢
      rcases hmade : troubleResponse id trouble with fault | response
      all_goals rw [hmade] at h
      · exact ⟨fault, rfl⟩
      · exact absurd rfl h

/-- **The last resort is the same for all faults** just when the settings do not let it show
them. -/
theorem lastResort_congr_iff (settings : Settings) :
    (∀ id one other, lastResort settings id one = lastResort settings id other) ↔
      settings.mayShowDetails = false := by
  constructor
  · intro h
    by_contra hshown
    have hshow : settings.mayShowDetails = true := by simpa using hshown
    have hsame := congrArg Response.body (h "r" (.state "one") (.state "other"))
    simp only [lastResort, shownDetails, hshow, if_true, Fault.message] at hsame
    revert hsame
    decide +kernel
  · intro hhidden id one other
    simp [lastResort, shownDetails, hhidden]

/-- **Errors are told with discretion.** Two media errors that differ only in words, keys and causes
get the same response. All faults that nobody expected get the same response for the same id just
when the settings do not ask for their texts or are those of production. A media error has the
status of its kind; what is told of it has this status and holds the code, and it is told unless the
store said what cannot be written. -/
theorem errors_discreet :
    (∀ one other : MediaError, one.Alike other → ∀ id,
      (RequestError.ofMedia one).respond? id = (RequestError.ofMedia other).respond? id) ∧
    (∀ settings : Settings, settings.showDetails = false ∨ settings.isProduction = true ↔
      ∀ id outcome other, (conclude settings id outcome).raised ≠ none →
        (conclude settings id other).raised ≠ none →
          (conclude settings id outcome).response = (conclude settings id other).response) ∧
    ∀ error : MediaError,
      ((RequestError.ofMedia error).status = 404 ↔ ∃ id cause, error = .notFound id cause) ∧
      ((RequestError.ofMedia error).status = 501 ↔ ∃ operation, error = .unsupported operation) ∧
      ((RequestError.ofMedia error).status = 502 ↔
        (∃ failed, error = .backend failed) ∨ ∃ failures, error = .batch failures) ∧
      ((RequestError.ofMedia error).status = 500 ↔
        (∃ wrong, error = .config wrong) ∨ ∃ message, error = .other message) ∧
      ∃ code : ErrorCode,
        (RequestError.ofMedia error).detail.get? "code" = some (.str code.text) ∧
        ∀ id, id ≠ "" →
          (error.isWritable = true →
            ∃ response, (RequestError.ofMedia error).respond? (some id) = .ok response) ∧
          ∀ response, (RequestError.ofMedia error).respond? (some id) = .ok response →
            response.status = (RequestError.ofMedia error).status ∧ ∃ message details,
              message ≠ "" ∧ TellsFailure id message (.str code.text) details response.body := by
  refine ⟨fun one other halike id => ?_, fun settings => ?_, fun error => ?_⟩
  · rw [RequestError.ofMedia_congr halike]
  · have hhidden : settings.showDetails = false ∨ settings.isProduction = true ↔
        settings.mayShowDetails = false := by
      cases hshow : settings.showDetails <;> simp [Settings.mayShowDetails, hshow]
    rw [hhidden, ← lastResort_congr_iff]
    constructor
    · intro hsame id outcome other hraised hraised'
      obtain ⟨fault, hfault⟩ := response_of_raised hraised
      obtain ⟨fault', hfault'⟩ := response_of_raised hraised'
      rw [hfault, hfault', hsame id fault fault']
    · -- any fault may come out of a route
      intro hsame id one other
      exact hsame id (.error (.failed (.fault one))) (.error (.failed (.fault other))) nofun nofun
  · obtain ⟨message, details, hown⟩ := RequestError.isOwn_ofMedia error
    have hcode : (RequestError.ofMedia error).detail.get? "code" =
        some (.str (RequestError.codeOf error).text) := by
      rw [hown.eq]
      rfl
    rw [RequestError.status_ofMedia]
    refine ⟨?_, ?_, ?_, ?_, RequestError.codeOf error, hcode,
      fun id hid => ⟨fun hwritable => ?_, ?_⟩⟩
    case refine_5 => exact hown.exists_response (RequestError.isFinite_detail_ofMedia hwritable) hid
    case refine_6 => exact fun response => RequestError.tellsFailure_of_respond hid
    all_goals cases error <;> simp [RequestError.statusOf]

/-- The store refuses two uploads. What it said, and of which object, is told to nobody. -/
theorem errors_discreet_of_refusals :
    let one : MediaError := .backend ⟨"upload", some "auaaaaaaaaaaa", .str "AccessDenied",
      some "not authorized at https://store.internal:9000", none⟩
    let other : MediaError := .backend ⟨"upload", none, .str "AccessDenied", none, none⟩
    one.message ≠ other.message ∧ one.Alike other ∧
      (RequestError.ofMedia one).respond? (some "r") =
        (RequestError.ofMedia other).respond? (some "r") ∧
      (∃ response, (RequestError.ofMedia one).respond? (some "r") = .ok response ∧
        response.status = 502 ∧ InEnvelope "r" response.body) ∧
      ∀ settings : Settings, settings.isProduction = true →
        (conclude settings "r" (.error (.failed (.fault (.state "one"))))).response =
          (conclude settings "r" (.error (.failed (.fault .notUtf8)))).response := by
  intro one other
  have halike : one.Alike other := .backend rfl rfl
  obtain ⟨hmedia, hfaults, htold⟩ := errors_discreet
  obtain ⟨-, -, h502, -, code, -, hresponses⟩ := htold one
  obtain ⟨hmade, hresponse⟩ := hresponses "r" (by decide)
  obtain ⟨response, hrespond⟩ := hmade rfl
  obtain ⟨hstatus, message, details, hmessage, htells⟩ := hresponse response hrespond
  refine ⟨by decide +kernel, halike, hmedia one other halike _, ⟨response, hrespond, ?_, ?_⟩, ?_⟩
  · exact hstatus.trans (h502.mpr (.inl ⟨_, rfl⟩))
  · exact ⟨message, _, details, hmessage, htells⟩
  · intro settings hproduction
    exact (hfaults settings).mp (.inr hproduction) "r" _ _ nofun nofun

end App

end Http

end MediaDepot
