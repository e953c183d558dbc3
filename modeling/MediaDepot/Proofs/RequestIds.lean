import MediaDepot.Proofs.Exchanges

/-!
# MediaDepot.Proofs.RequestIds

**Which id an answer carries, in its headers and in its body.** The names of headers are sent in
small letters, which are their own small form (`Text.lower_lower_of_latin1`), so nothing else can be
taken for the header with the id (`Http.App.idHeaders_withId`). It is put on what comes out of a
route, and not on the last resort. A body that ends in the id of a request was told for this request
(`Http.App.eq_of_namesRequest`), unless it is content.
-/

namespace MediaDepot

/-! ### Small letters -/

namespace Text

/-- A character that stands for itself in small letters. -/
def IsSmall (c : Char) : Prop := c ≠ 'Σ' ∧ lowerChar c = [c]

instance (c : Char) : Decidable (IsSmall c) := inferInstanceAs (Decidable (_ ∧ _))

theorem lowerFrom_of_isSmall {cs : List Char} (h : ∀ c ∈ cs, IsSmall c) (afterCased : Bool) :
    lowerFrom afterCased cs = cs := by
  induction cs generalizing afterCased with
  | nil => rfl
  | cons c cs ih =>
      obtain ⟨hsigma, hself⟩ := h c List.mem_cons_self
      simp only [lowerFrom, if_neg hsigma, hself]
      rw [ih fun d hd => h d (List.mem_cons_of_mem c hd)]
      rfl

/-- The letters of a run become small letters of ASCII, or letters behind the capitals of
Latin-1. -/
theorem shift_of_mem_caseRuns : ∀ run ∈ caseRuns,
    97 ≤ run.first + run.shift ∧ run.last + run.shift ≤ 122 ∨ 223 ≤ run.first + run.shift := by
  decide +kernel

/-- Small letters of ASCII, and what lies behind the capitals of Latin-1, are small. -/
theorem isSmall_of_code {code : Nat} (h : 97 ≤ code ∧ code ≤ 122 ∨ 223 ≤ code)
    (hlatin : (Char.ofNat code).toNat < 256) : IsSmall (Char.ofNat code) := by
  have hsmall : ∀ n : Fin 256, n.1 = 0 ∨ 97 ≤ n.1 ∧ n.1 ≤ 122 ∨ 223 ≤ n.1 →
      IsSmall (Char.ofNat n.1) := by
    decide +kernel
  have hcode : (Char.ofNat code).toNat = 0 ∨ (Char.ofNat code).toNat = code := by
    by_cases hvalid : code.isValidChar
    · right
      rw [Char.ofNat, dif_pos hvalid]
      rfl
    · left
      rw [Char.ofNat, dif_neg hvalid]
      rfl
  have hself := hsmall ⟨(Char.ofNat code).toNat, hlatin⟩ (by dsimp only; omega)
  rwa [Char.ofNat_toNat] at hself

/-- What small letters are made of in Latin-1 is small. -/
theorem isSmall_of_mem_lowerChar {c d : Char} (h : d ∈ lowerChar c) (hlatin : d.toNat < 256) :
    IsSmall d := by
  unfold lowerChar at h
  split at h
  · next hascii =>
      have hsmall : ∀ n : Fin 128, IsSmall (Char.ofNat n.1).toLower := by decide
      have hc := hsmall ⟨c.toNat, hascii⟩
      rw [Char.ofNat_toNat] at hc
      rwa [List.mem_singleton.mp h]
  · next hbeyond =>
      split at h
      · next hdotted =>
          rcases List.mem_cons.mp h with rfl | hdot
          · decide
          · rw [List.mem_singleton.mp hdot] at hlatin
            exact absurd hlatin (by decide)
      · next hdotted =>
          split at h
          · next run hrun =>
              have hshift := shift_of_mem_caseRuns run (List.mem_of_find?_eq_some hrun)
              have hholds := List.find?_some hrun
              simp only [CaseRun.holds, Bool.and_eq_true, decide_eq_true_eq] at hholds
              rw [List.mem_singleton.mp h] at hlatin ⊢
              exact isSmall_of_code (by omega) hlatin
          · next hnone =>
              rw [List.mem_singleton.mp h]
              refine ⟨?_, by simp [lowerChar, hbeyond, hdotted, hnone]⟩
              rintro rfl
              rw [List.mem_singleton.mp h] at hlatin
              exact absurd hlatin (by decide)

theorem isSmall_of_mem_lowerFrom {cs : List Char} {afterCased : Bool} {d : Char}
    (h : d ∈ lowerFrom afterCased cs) (hlatin : d.toNat < 256) : IsSmall d := by
  induction cs generalizing afterCased with
  | nil => cases h
  | cons c cs ih =>
      rw [lowerFrom] at h
      rcases List.mem_append.mp h with hfirst | hrest
      · split at hfirst
        · -- neither small form of sigma is in Latin-1
          split at hfirst
          all_goals
            rw [List.mem_singleton.mp hfirst] at hlatin
            exact absurd hlatin (by decide)
        · exact isSmall_of_mem_lowerChar hfirst hlatin
      · exact ih hrest

/-- **Small letters stay** what they are, in Latin-1. -/
theorem lower_lower_of_latin1 {s : String} (h : ∀ c ∈ (lower s).toList, c.toNat < 256) :
    lower (lower s) = lower s := by
  have hsmall : ∀ c ∈ (lower s).toList, IsSmall c := by
    intro c hc
    have hmem : c ∈ lowerFrom false s.toList := by simpa [lower] using hc
    exact isSmall_of_mem_lowerFrom hmem (h c hc)
  rw [lower, lowerFrom_of_isSmall hsmall, String.ofList_toList]

end Text

namespace Http

/-! ### Names of headers -/

/-- **The headers have names in small letters.** -/
def Response.HasSmallNames (response : Response) : Prop :=
  ∀ header ∈ response.headers, Text.lower header.1 = header.1

/-- What is sent has names in small letters. -/
theorem lower_of_mem_encodeHeaders {headers given : Headers} (h : encodeHeaders headers = .ok given)
    {header : String × String} (hmem : header ∈ given) : Text.lower header.1 = header.1 := by
  induction headers generalizing given with
  | nil =>
      cases h
      cases hmem
  | cons first headers ih =>
      obtain ⟨name, value⟩ := first
      obtain ⟨rest, hrest, hname, rfl⟩ := of_encodeHeaders_cons h
      rcases List.mem_cons.mp hmem with rfl | hmem
      · exact Text.lower_lower_of_latin1 (latin1Fault?_eq_none_iff.mp hname)
      · exact ih hrest hmem

theorem hasSmallNames_of_make {status : Int} {headers : Headers} {mediaType : Option String}
    {length : Option Nat} {body : Bytes} {response : Response}
    (h : Response.make? status headers mediaType length body = .ok response) :
    response.HasSmallNames := by
  have hlength : Text.lower lengthName = lengthName := by decide
  have htype : Text.lower "content-type" = "content-type" := by decide
  obtain ⟨given, announced, hgiven, rfl⟩ := of_make h
  intro header hheader
  simp only [List.mem_append] at hheader
  rcases hheader with (hheader | hheader) | hheader
  · exact lower_of_mem_encodeHeaders hgiven hheader
  · rw [fst_of_mem_unlessGiven hheader, hlength]
  · rw [fst_of_mem_unlessGiven hheader, htype]

theorem hasSmallNames_of_document {status : Int} {headers : Headers} {document : Json}
    {response : Response} (h : Response.document? status headers document = .ok response) :
    response.HasSmallNames := by
  rw [Response.document?] at h
  split at h
  · exact hasSmallNames_of_make h
  · cases h

theorem RequestError.hasSmallNames {error : RequestError} {id : Option String} {response : Response}
    (h : error.respond? id = .ok response) : response.HasSmallNames := by
  rw [RequestError.respond?] at h
  rcases hheaders : textHeaders (error.headers.getD []) with fault | headers
  all_goals rw [hheaders] at h
  · cases h
  · exact hasSmallNames_of_document h

namespace App

/-- All responses that a route gives have the property. -/
def Gives (property : Response → Prop) (step : Step Response) : Prop :=
  ∀ program response, (step.run program).1 = .ok response → property response

variable {property : Response → Prop}

theorem gives_ofMade {made : Except Fault Response}
    (h : ∀ response, made = .ok response → property response) : Gives property (ofMade made) := by
  intro program response hresponse
  rw [run_ofMade] at hresponse
  cases made with
  | error fault => cases hresponse
  | ok response' =>
      cases hresponse
      exact h _ rfl

/-- What comes last gives the response. -/
theorem gives_bind {α : Type} {work : Step α} {next : α → Step Response}
    (h : ∀ a, Gives property (next a)) : Gives property (work >>= next) := by
  intro program response hresponse
  rw [ExceptT.run_bind_state] at hresponse
  rcases hwork : work.run program with ⟨trouble | a, after⟩
  all_goals rw [hwork] at hresponse
  · cases hresponse
  · exact h a after response hresponse

theorem gives_dispatchBy (behind : Backing) (request : Request) (id : String) :
    Gives Response.HasSmallNames (dispatchBy behind request id) := by
  unfold dispatchBy
  split
  · refine gives_ofMade fun response h => ?_
    unfold unrouted at h
    dsimp only at h
    split at h
    · exact hasSmallNames_of_make h
    · exact hasSmallNames_of_document h
  · next route hroute =>
      split
      · exact gives_ofMade fun response => hasSmallNames_of_document
      · cases route with
        | serve =>
            refine gives_bind fun result => ?_
            split
            · refine gives_ofMade fun response h => ?_
              obtain ⟨headers, hwhole⟩ := exists_of_completeResponse h
              exact hasSmallNames_of_make hwhole
            · refine gives_bind fun download => gives_ofMade fun response h => ?_
              unfold contentResponse at h
              split at h
              · exact hasSmallNames_of_make h
              · exact hasSmallNames_of_make h
        | take =>
            refine gives_bind fun ⟨name, given, content⟩ => ?_
            dsimp only
            split
            · exact gives_bind fun _ => gives_bind fun receipt => gives_ofMade fun response =>
                hasSmallNames_of_document
            · exact gives_bind fun receipt => gives_ofMade fun response => hasSmallNames_of_document
        | health =>
            exact gives_bind fun backend => gives_bind fun after =>
              gives_ofMade fun response => hasSmallNames_of_document

theorem hasSmallNames_of_troubleResponse {id : String} {trouble : Trouble} {response : Response}
    (h : troubleResponse id trouble = .ok response) : response.HasSmallNames := by
  cases trouble with
  | unreadable fault =>
      rw [troubleResponse, plainRefusal] at h
      exact hasSmallNames_of_document h
  | fileMissing => exact hasSmallNames_of_document h
  | fileIsText text =>
      rw [troubleResponse] at h
      obtain ⟨shown, hshown⟩ := of_looseResponse h
      exact hasSmallNames_of_document hshown
  | fileEmpty name =>
      rw [troubleResponse] at h
      obtain ⟨shown, hshown⟩ := of_looseResponse h
      exact RequestError.hasSmallNames hshown
  | failed failure =>
      cases failure with
      | fault fault => cases h
      | media error => exact RequestError.hasSmallNames h

/-- **Every response** has headers with names in small letters. -/
theorem hasSmallNames_of_made {behind : Backing} {request : Request} {id : String}
    {program : Program} {response : Response}
    (h : made id ((dispatchBy behind request id).run program).1 = .ok response) :
    response.HasSmallNames := by
  rcases hgiven : ((dispatchBy behind request id).run program).1 with trouble | given
  all_goals rw [hgiven] at h
  · exact hasSmallNames_of_troubleResponse h
  · obtain rfl : given = response := Except.ok.inj h
    exact gives_dispatchBy behind request id program given hgiven

/-! ### Ids in headers -/

/-- The headers with the id of a request, in any spelling of their name. -/
def idHeaders (response : Response) : Headers :=
  response.headers.filter fun header => Text.lower header.1 == Text.lower "X-Request-ID"

/-- **The id is put on a response** once, in place of any that is there. -/
theorem idHeaders_withId {response : Response} (h : response.HasSmallNames) (id : String) :
    idHeaders (withId id response) = [("x-request-id", id)] := by
  have hname : Text.lower "X-Request-ID" = "x-request-id" := by decide
  have hown : Text.lower "x-request-id" = "x-request-id" := by decide
  have hnone : (response.headers.filter fun header => header.1 != "x-request-id").filter
      (fun header => Text.lower header.1 == Text.lower "X-Request-ID") = [] := by
    refine List.filter_eq_nil_iff.mpr fun header hheader => ?_
    obtain ⟨hmem, hother⟩ := List.mem_filter.mp hheader
    rw [h header hmem, hname]
    simpa using hother
  rw [idHeaders, withId, List.filter_append, hnone]
  simp [hname, hown]

/-- The last resort carries no id in its headers. -/
theorem idHeaders_lastResort (settings : Settings) (id : String) (fault : Fault) :
    idHeaders (lastResort settings id fault) = [] := by
  have hlength : Text.lower "content-length" ≠ Text.lower "X-Request-ID" := by decide
  have htype : Text.lower "content-type" ≠ Text.lower "X-Request-ID" := by decide
  simp [idHeaders, lastResort, hlength, htype]

/-! ### Ids in bodies -/

/-- **The body ends in the id of a request**: it is a document of which this is the last field. -/
def NamesRequest (id : String) (body : Bytes) : Prop :=
  ∃ fields, body = Text.utf8 (Json.obj (fields ++ [("requestId", .str id)])).render

/-- **The answer brings content** of a file. -/
def BringsContent (request : Request) (response : Response) : Prop :=
  Route.ofPath? request.path = some .serve ∧ response.status = 200

theorem not_namesRequest_nil (other : String) : ¬ NamesRequest other [] := by
  rintro ⟨fields, hbody⟩
  have htext : "" = (Json.obj (fields ++ [("requestId", .str other)])).render :=
    Text.utf8_injective hbody
  have hlist := congrArg String.toList htext
  rw [Json.toList_render_obj] at hlist
  cases hlist

/-- Only the name that the id has can stand before it. -/
theorem eq_of_namesRequest_append {fields : Fields} {name text other : String}
    (h : NamesRequest other (Text.utf8 (Json.obj (fields ++ [(name, .str text)])).render)) :
    name = "requestId" ∧ other = text := by
  obtain ⟨fields', hbody⟩ := h
  obtain ⟨hname, htext⟩ := Json.eq_of_render_append (Text.utf8_injective hbody)
  exact ⟨hname, htext.symm⟩

theorem eq_of_namesRequest_envelope {id other : String} (hid : id ≠ "") {succeeded : Bool}
    {message : String} {data : Json}
    (h : NamesRequest other (Text.utf8 (envelope succeeded message data (some id)).render)) :
    other = id := by
  rw [envelope, idField_of_ne hid] at h
  exact (eq_of_namesRequest_append h).2

/-- **A body that ends in an id** ends in the id of its request, unless it is content. -/
theorem eq_of_namesRequest {behind : Backing} {request : Request} {program : Program}
    {id other : String} (hid : id ≠ "") {settings : Settings} {outcome : Except Fault Response}
    (hexchange : Exchange behind request program id outcome)
    (hcontent : ¬ BringsContent request (concluding settings id outcome).response)
    (h : NamesRequest other (concluding settings id outcome).response.body) : other = id := by
  have hsame {response : Response} (h : NamesRequest other (withId id response).body) :
      NamesRequest other response.body := h
  cases hexchange with
  | refused _ _ hplain =>
      obtain ⟨detail, hbody⟩ := hplain
      have hdocument : plainDocument detail = .obj ([] ++ [("detail", .str detail)]) := rfl
      have hnames := hsame h
      rw [hbody, hdocument] at hnames
      exact absurd (eq_of_namesRequest_append hnames).1 (by decide)
  | declined _ hempty | bare _ hempty =>
      have hnames := hsame h
      rw [hempty] at hnames
      exact absurd hnames (not_namesRequest_nil other)
  | content hroute hstatus => exact absurd ⟨hroute, hstatus⟩ hcontent
  | state _ backend after hbody =>
      have hdocument : stateDocument backend after =
          .obj ([("status", .str "healthy"), ("media_handler", .str backend)] ++ [("gc_scheduler",
            .str (if after.sweeper.isSome then "running" else "stopped"))]) := rfl
      have hnames := hsame h
      rw [hbody, hdocument] at hnames
      exact absurd (eq_of_namesRequest_append hnames).1 (by decide)
  | taken _ message data hbody =>
      have hnames := hsame h
      rw [hbody] at hnames
      exact eq_of_namesRequest_envelope hid hnames
  | failed _ hfailure =>
      obtain ⟨-, message, code, details, -, hbody⟩ := hfailure
      have hnames := hsame h
      rw [hbody] at hnames
      exact eq_of_namesRequest_envelope hid hnames
  | broken _ fault => exact eq_of_namesRequest_envelope hid h

/-! ### Ids of answers -/

/-- **Ids of answers.** Whatever lies behind the routes, the id of a request is the one it brings,
or else a new one. The headers of the answer carry it exactly once if no unexpected fault was
raised, and else not at all; and a body that ends in the id of a request ends in this one, unless it
is the content of a file. -/
theorem id_sent_iff (behind : Backing) (settings : Settings) (request : Request)
    (program : Program) :
    let begun := (requestIdOf request).run program
    let answer := ((respondBy behind settings request).run program).1
    begun.1 = ((request.header? "X-Request-ID").filter (· ≠ "")).getD
      ("request-" ++ toString (program.requests + 1)) ∧
    (idHeaders answer.response = if answer.raised.isNone then [("x-request-id", begun.1)] else []) ∧
    (∀ other, NamesRequest other answer.response.body → ¬ BringsContent request answer.response →
      other = begun.1) ∧
    respondBy .vault = respond := by
  intro begun answer
  obtain ⟨hexchange, hanswer⟩ := exchange_respondBy behind settings request program
  have hsmall (response : Response)
      (h : made begun.1 ((dispatchBy behind request begun.1).run begun.2).1 = .ok response) :
      response.HasSmallNames := hasSmallNames_of_made h
  generalize made begun.1 ((dispatchBy behind request begun.1).run begun.2).1 = outcome
    at hexchange hanswer hsmall
  have hanswer : answer = concluding settings begun.1 outcome := hanswer
  refine ⟨?_, ?_, ?_, respondBy_vault⟩
  · rcases run_requestIdOf request program with ⟨given, hheader, hne, hrun⟩ | ⟨hempty, hrun⟩
    · simp [begun, hrun, hheader, hne, Option.filter]
    · rcases hheader : request.header? "X-Request-ID" with _ | given
      · simp [begun, hrun, Option.filter]
      · simp [begun, hrun, hempty given hheader, Option.filter]
  · rw [hanswer]
    cases outcome with
    | ok response => exact idHeaders_withId (hsmall response rfl) begun.1
    | error fault => exact idHeaders_lastResort settings begun.1 fault
  · rw [hanswer]
    intro other hnames hcontent
    exact eq_of_namesRequest (requestIdOf_ne request program) hexchange hcontent hnames

/-- A client asks for a file that nobody knows, and is told so under the id that it gave. -/
theorem id_sent_iff_of_unknown_file :
    let program : Program := .holding (.files {}) ⟨.memory {}, {}⟩
    let request : Request := ⟨"GET", "/v0/file/s/BQAAAAAAAAA", "", [("X-Request-ID", "r")], []⟩
    let answer := ((respondBy .vault default request).run program).1
    NamesRequest "r" answer.response.body ∧ ¬ BringsContent request answer.response ∧
      idHeaders answer.response = [("x-request-id", "r")] ∧
      ∀ other, NamesRequest other answer.response.body → other = "r" := by
  intro program request answer
  have hbegun : (requestIdOf request).run program = ("r", program) := rfl
  obtain ⟨-, hheaders, hbodies, hrespond⟩ := id_sent_iff .vault default request program
  have hanswer : answer = ((respond default request).run program).1 :=
    congrArg (fun respond => ((respond default request).run program).1) hrespond
  let fields : Fields := [("success", .bool false), ("message", .str "File not found"),
    ("data", errorData (.str "RESOURCE_NOT_FOUND")
      (.obj [("resource", .str "File"), ("resource_id", .str "BQAAAAAAAAA")]))]
  have htold : answer.raised.isNone = true ∧ answer.response.status = 404 ∧
      answer.response.body = Text.utf8 (Json.obj (fields ++ [("requestId", .str "r")])).render := by
    rw [hanswer]
    decide +kernel
  obtain ⟨hraised, hstatus, hbody⟩ := htold
  have hcontent : ¬ BringsContent request answer.response := by
    rintro ⟨-, hsent⟩
    exact absurd (hstatus.symm.trans hsent) (by decide)
  refine ⟨⟨fields, hbody⟩, hcontent, ?_, fun other h => ?_⟩
  · rw [if_pos hraised, hbegun] at hheaders
    exact hheaders
  · have hown := hbodies other h hcontent
    rwa [hbegun] at hown

/-- **An unexpected fault costs the answer its id.** Signing a URL fails for a reason of its own;
only the body tells the id. -/
theorem id_not_sent_unexpected_fault :
    let record : Record := { id := "BQAAAAAAAAA", mimeType := "image/png", etag := "e" }
    let site : Site := { objects := { script := [(.sign, .fail (.state "boom"))] } }
    let program : Program := .holding (.bucket ⟨{ bucket := "b" }, true⟩) ⟨.memory ⟨[record]⟩, site⟩
    let request : Request := ⟨"GET", "/v0/file/s/BQAAAAAAAAA", "", [("X-Request-ID", "req-1")], []⟩
    let answer := ((respond default request).run program).1
    answer.response.status = 500 ∧ idHeaders answer.response = [] ∧
      NamesRequest "req-1" answer.response.body := by
  intro record site program request answer
  let fields : Fields := [("success", .bool false), ("message", .str "Internal Server Error"),
    ("data", errorData (.str "INTERNAL_ERROR") .null)]
  have htold : answer.response.status = 500 ∧ idHeaders answer.response = [] ∧
      answer.response.body =
        Text.utf8 (Json.obj (fields ++ [("requestId", .str "req-1")])).render := by
    decide +kernel
  obtain ⟨hstatus, hheaders, hbody⟩ := htold
  exact ⟨hstatus, hheaders, fields, hbody⟩

end App

end Http

end MediaDepot
