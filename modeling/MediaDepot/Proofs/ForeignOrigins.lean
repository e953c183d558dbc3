import MediaDepot.Proofs.HeadRequests

/-!
# MediaDepot.Proofs.ForeignOrigins

**A foreign origin learns nothing and gains nothing.** A request is looked at in four ways only: its
method, its URL, whether it came under the serve URL, and two of its headers. So what is left out of
it matters only for the rules for other origins and for the question whether the client holds the
file (`Handler.headers_congr`). The rules make no difference between an origin that is not allowed
and none (`CrossOrigin.allowedOrigin_of_foreign`), and the other question is asked by another name.

The other way round, what names an origin in an answer comes from these rules alone
(`Handler.mem_headers`), and they name every origin or the request's own
(`CrossOrigin.allowedOrigin_cases`).
-/

namespace MediaDepot

/-! ### Headers by name -/

namespace Headers

/-- The headers but those of a name, in any spelling. -/
def without (headers : Headers) (name : String) : Headers :=
  headers.filter fun entry => Text.lower entry.1 != Text.lower name

variable {headers : Headers} {name other value : String}

theorem mem_without {header : String × String} :
    header ∈ headers.without name ↔ header ∈ headers ∧ Text.lower header.1 ≠ Text.lower name := by
  simp [without]

/-- What is looked up under a name is the value of that name, in some spelling. -/
theorem exists_mem_of_get? (h : headers.get? name = some value) :
    ∃ spelling, (spelling, value) ∈ headers ∧ Text.lower spelling = Text.lower name := by
  rw [get?, Option.or_eq_some_iff] at h
  rcases h with hexact | ⟨-, hany⟩
  · obtain ⟨before, after, rfl, -⟩ := List.lookup_eq_some_iff.mp hexact
    exact ⟨name, by simp, rfl⟩
  · obtain ⟨⟨spelling, value⟩, hfound, rfl⟩ := Option.map_eq_some_iff.mp hany
    exact ⟨spelling, List.mem_of_find?_eq_some hfound, by simpa using List.find?_some hfound⟩

@[simp] theorem get?_without_self : (headers.without name).get? name = none := by
  rw [Option.eq_none_iff_forall_ne_some]
  intro value hvalue
  obtain ⟨spelling, hmem, hname⟩ := exists_mem_of_get? hvalue
  exact (mem_without.mp hmem).2 hname

/-- Headers of another name are found as before. -/
theorem get?_without_of_ne (h : Text.lower other ≠ Text.lower name) :
    (headers.without name).get? other = headers.get? other := by
  have hexact : (headers.without name).lookup other = headers.lookup other := by
    induction headers with
    | nil => rfl
    | cons entry rest ih =>
        obtain ⟨spelling, value⟩ := entry
        rw [without] at ih ⊢
        by_cases hsame : other = spelling
        · subst hsame
          simp [h]
        · have hother : (other == spelling) = false := beq_eq_false_iff_ne.mpr hsame
          by_cases hleft : Text.lower spelling = Text.lower name
          · simp [hleft, ih, List.lookup_cons, hother]
          · simp [hleft, ih, List.lookup_cons]
  have hany : (headers.without name).getAnyCase? other = headers.getAnyCase? other := by
    rw [getAnyCase?, getAnyCase?, without, List.find?_filter]
    congr 2
    funext entry
    by_cases hsame : Text.lower entry.1 = Text.lower other
    · simp [hsame, h]
    · simp [hsame]
  rw [get?, get?, hexact, hany]

end Headers

/-! ### Origins of requests -/

namespace FileRequest

variable (request : FileRequest)

/-- The request says that it comes from this origin. -/
def NamesOrigin (origin : String) : Prop :=
  ∃ name, (name, origin) ∈ request.headers ∧ Text.lower name = Text.lower "Origin"

/-- The request without its origin. -/
def withoutOrigin : FileRequest :=
  { request with headers := request.headers.without "Origin" }

/-- **The request comes from no origin that is allowed**, if it comes from another origin at all. -/
structure IsForeign (config : ServeConfig) : Prop where
  notAll : "*" ∉ config.origins
  notOwn : ∀ origin, request.NamesOrigin origin → origin ∉ config.origins

end FileRequest

namespace CrossOrigin

variable {config : ServeConfig} {request : FileRequest}

/-- **What may be named in an answer**: every origin or the request's own, and only if it is
allowed. -/
theorem allowedOrigin_cases (config : ServeConfig) (request : FileRequest) :
    let named := allowedOrigin config.origins (request.headers.get? "Origin")
    named = "" ∨ named = "*" ∧ "*" ∈ config.origins ∨
      request.NamesOrigin named ∧ named ∈ config.origins := by
  intro named
  rcases horigin : request.headers.get? "Origin" with _ | origin
  · exact .inl (by simp [named, horigin, allowedOrigin])
  · by_cases hempty : origin = ""
    · exact .inl (by simp [named, horigin, allowedOrigin, hempty])
    · by_cases hall : "*" ∈ config.origins
      · exact .inr (.inl ⟨by simp [named, horigin, allowedOrigin, hempty, hall], hall⟩)
      · by_cases hown : origin ∈ config.origins
        · have hnamed : named = origin := by
            simp [named, horigin, allowedOrigin, hempty, hall, hown]
          rw [hnamed]
          exact .inr (.inr ⟨Headers.exists_mem_of_get? horigin, hown⟩)
        · exact .inl (by simp [named, horigin, allowedOrigin, hall, hown])

/-- An origin that is not allowed is not named. -/
theorem allowedOrigin_of_foreign (h : request.IsForeign config) :
    allowedOrigin config.origins (request.headers.get? "Origin") = "" := by
  rcases allowedOrigin_cases config request with hnone | ⟨-, hall⟩ | ⟨hnames, hown⟩
  · exact hnone
  · exact absurd hall h.notAll
  · exact absurd hown (h.notOwn _ hnames)

/-- The rules for other origins look at the origin only to see whether it is allowed. -/
theorem negotiate_congr {method : String} {headers headers' : Headers} {allowed : List String}
    {serve : Bool}
    (h : allowedOrigin allowed (headers.get? "Origin") =
      allowedOrigin allowed (headers'.get? "Origin")) :
    negotiate method headers allowed serve = negotiate method headers' allowed serve := by
  rw [negotiate, negotiate, h]

/-- The name of the header that names an origin. -/
def originName : String := "Access-Control-Allow-Origin"

/-- A header that names an origin names what is allowed. -/
theorem eq_allowedOrigin_of_mem_negotiate {method name value : String} {headers : Headers}
    {allowed : List String} {serve : Bool}
    (h : (name, value) ∈ (negotiate method headers allowed serve).headers)
    (hname : Text.lower name = Text.lower originName) :
    value = allowedOrigin allowed (headers.get? "Origin") ∧ value ≠ "" := by
  have hothers : ∀ header ∈ preflightHeaders ++ [("Vary", "Origin")],
      Text.lower header.1 ≠ Text.lower originName := by decide
  have hother : (name, value) ∉ preflightHeaders ++ [("Vary", "Origin")] :=
    fun hmem => hothers _ hmem hname
  simp only [List.mem_append, not_or] at hother
  obtain ⟨hpreflight, hvary⟩ := hother
  rw [List.mem_singleton] at hvary
  unfold negotiate at h
  split at h
  · dsimp only at h
    split at h
    · rw [List.mem_append, or_iff_left hpreflight, originHeader] at h
      split at h
      · cases h
      · next hnonempty =>
          simp only [List.mem_singleton, Prod.mk.injEq] at h
          exact ⟨h.2, fun hempty => hnonempty (by rw [← h.2, hempty]; rfl)⟩
    · rw [answerHeaders] at h
      split at h
      · cases h
      · next hnonempty =>
          rw [List.mem_cons, List.mem_singleton, or_iff_left hvary] at h
          simp only [Prod.mk.injEq] at h
          exact ⟨h.2, fun hempty => hnonempty (by rw [← h.2, hempty]; rfl)⟩
  · cases h

end CrossOrigin

/-! ### Answers -/

namespace Handler

variable {request request' : FileRequest}

/-- **What a request is looked at for.** -/
structure LooksAlike (config : ServeConfig) (request request' : FileRequest) : Prop where
  method : request.method = request'.method
  url : request.url = request'.url
  serve : request.serve = request'.serve
  origin : CrossOrigin.allowedOrigin config.origins (request.headers.get? "Origin") =
    CrossOrigin.allowedOrigin config.origins (request'.headers.get? "Origin")
  held : request.headers.get? "If-None-Match" = request'.headers.get? "If-None-Match"

/-- Requests that look alike come to the same before a handler's own part. -/
theorem start_congr {config : ServeConfig} (h : LooksAlike config request request')
    (method : String) : start config method request = start config method request' := by
  simp only [start, CrossOrigin.negotiate_congr h.origin, h.serve, h.url]

theorem holds_congr {config : ServeConfig} (h : LooksAlike config request request')
    (record : Record) : holds record request.headers = holds record request'.headers := by
  rw [holds, holds, h.held]

/-- **Requests that look alike are answered alike.** -/
theorem headers_congr (handler : Handler) (h : LooksAlike handler.serveConfig request request') :
    handler.headers request = handler.headers request' := by
  cases handler with
  | files handler =>
      rw [serveConfig] at h
      simp only [headers, LocalHandler.headers, start_congr h, holds_congr h, h.method]
  | bucket handler =>
      rw [serveConfig] at h
      simp only [headers, BucketHandler.headers, start_congr h, holds_congr h, h.method, h.url]

/-- To leave the origin out of a request from a foreign origin makes no difference. -/
theorem looksAlike_withoutOrigin {config : ServeConfig} (h : request.IsForeign config) :
    LooksAlike config request request.withoutOrigin where
  method := rfl
  url := rfl
  serve := rfl
  origin := by
    rw [CrossOrigin.allowedOrigin_of_foreign h, FileRequest.withoutOrigin,
      Headers.get?_without_self]
    rfl
  held := (Headers.get?_without_of_ne (by decide)).symm

/-- The headers for other origins among what was opened. -/
def Opening.crossOrigin : Opening → Headers
  | .answered result => result.headers
  | .file _ _ crossOrigin => crossOrigin

theorem crossOrigin_of_opening {records : RecordStore} {config : ServeConfig} {opened : Opening}
    (h : opening records config (Text.upper request.method) request = .ok opened) :
    opened.crossOrigin = crossOrigin config request := by
  simp only [opening] at h
  split at h
  · cases h
    rfl
  · rcases hfound : resolve records config request.url with failure | ⟨uid, record⟩
    all_goals
      rw [hfound] at h
      cases h
    rfl

/-- The names of the headers that say nothing of origins. -/
def plainNames : List String := ["Cache-Control", "ETag", "Content-Type"]

/-- What a folder answers is what the rules for other origins say, and headers that say nothing of
them. -/
theorem mem_answer {handler : LocalHandler} {opened : Opening} {header : String × String}
    (h : header ∈ (handler.answer request opened).headers) :
    header ∈ opened.crossOrigin ∨ header.1 ∈ plainNames := by
  cases opened with
  | answered result => exact .inl h
  | file uid record crossOrigin =>
      have hshape : header ∈ crossOrigin ∨ header.1 = "Cache-Control" ∨ header.1 = "ETag" := by
        simp only [LocalHandler.answer, notModified] at h
        split at h
        · simp only [List.mem_append, List.mem_singleton] at h
          exact h.imp_right fun heq => .inl (congrArg Prod.fst heq)
        · split at h
          · simp only [List.mem_cons, List.not_mem_nil, or_false] at h
            exact .inr (h.symm.imp (congrArg Prod.fst) (congrArg Prod.fst))
          · simp only [List.mem_append, List.mem_singleton, or_assoc] at h
            exact h.imp_right (.imp (congrArg Prod.fst) (congrArg Prod.fst))
      exact hshape.imp_right (by rintro (h | h) <;> simp [plainNames, h])

/-- What a bucket answers without a signed URL is so, too. -/
theorem mem_progress {handler : BucketHandler} {opened : Opening} {result : HeaderResult}
    {header : String × String} (hresult : handler.progress request opened = .complete result)
    (h : header ∈ result.headers) : header ∈ opened.crossOrigin ∨ header.1 ∈ plainNames := by
  cases opened with
  | answered answer =>
      cases hresult
      exact .inl h
  | file uid record crossOrigin =>
      simp only [BucketHandler.progress] at hresult
      split at hresult
      · cases hresult
        simp only [notModified, List.mem_cons, List.not_mem_nil, or_false] at h
        rcases h with rfl | rfl <;> simp [plainNames]
      · split at hresult
        all_goals cases hresult
        cases h

/-- **Where headers come from**: the rules for other origins, or they say nothing of origins. -/
theorem mem_headers {handler : Handler} {depot : Depot} {result : HeaderResult}
    {header : String × String} (hresult : ((handler.headers request).run depot).1 = .ok result)
    (h : header ∈ result.headers) :
    header ∈ crossOrigin handler.serveConfig request ∨ header.1 ∈ plainNames := by
  cases handler with
  | files handler =>
      rw [headers, handler.run_headers_eq] at hresult
      rcases hopening : opening depot.records handler.config.toServeConfig
        (Text.upper request.method) request with failure | opened
      all_goals
        rw [hopening] at hresult
        cases hresult
      exact crossOrigin_of_opening hopening ▸ mem_answer h
  | bucket handler =>
      rw [headers, handler.run_headers_eq] at hresult
      rcases hopening : opening depot.records handler.config.toServeConfig
        (Text.upper request.method) request with failure | opened
      all_goals rw [hopening] at hresult
      · cases hresult
      · rw [Except.map] at hresult
        rcases hprogress : handler.progress request opened with answer | ⟨uid, record⟩
        all_goals
          rw [hprogress] at hresult
          dsimp only at hresult
        · cases hresult
          exact crossOrigin_of_opening hopening ▸ mem_progress hprogress h
        · obtain ⟨target, rfl⟩ := handler.eq_redirection_of_redirect request hresult
          simp only [BucketHandler.redirection, List.mem_cons, List.not_mem_nil, or_false] at h
          rcases h with rfl | rfl | rfl <;> simp [plainNames]

/-- **Which origin is named in an answer**: every origin or the request's own, if that is
allowed. -/
theorem named_of_headers {handler : Handler} {depot : Depot} {result : HeaderResult}
    {name value : String} (hresult : ((handler.headers request).run depot).1 = .ok result)
    (h : (name, value) ∈ result.headers)
    (hname : Text.lower name = Text.lower CrossOrigin.originName) :
    value = "*" ∧ "*" ∈ handler.serveConfig.origins ∨
      request.NamesOrigin value ∧ value ∈ handler.serveConfig.origins := by
  have hplain : ∀ other ∈ plainNames, Text.lower other ≠ Text.lower CrossOrigin.originName := by
    decide
  have hmem : (name, value) ∈ crossOrigin handler.serveConfig request :=
    (mem_headers hresult h).resolve_right fun hother => hplain _ hother hname
  obtain ⟨rfl, hnonempty⟩ := CrossOrigin.eq_allowedOrigin_of_mem_negotiate hmem hname
  exact (CrossOrigin.allowedOrigin_cases _ request).resolve_left hnonempty

/-- **A foreign origin learns nothing and gains nothing.** A request from an origin that is not
allowed comes to what the same request without its origin comes to, and no origin is named in the
answer. The other way round, what is named in an answer is every origin, if all are allowed, or the
request's own, if that is allowed. -/
theorem answers_foreign_as_none (handler : Handler) (request : FileRequest) (depot : Depot) :
    (request.IsForeign handler.serveConfig →
      (handler.headers request).run depot = (handler.headers request.withoutOrigin).run depot ∧
      ∀ result, ((handler.headers request).run depot).1 = .ok result →
        ∀ header ∈ result.headers, Text.lower header.1 ≠ Text.lower CrossOrigin.originName) ∧
    ∀ result value, ((handler.headers request).run depot).1 = .ok result →
      (CrossOrigin.originName, value) ∈ result.headers →
        value = "*" ∧ "*" ∈ handler.serveConfig.origins ∨
          request.NamesOrigin value ∧ value ∈ handler.serveConfig.origins := by
  refine ⟨fun hforeign => ⟨?_, ?_⟩, fun result value hresult h => named_of_headers hresult h rfl⟩
  · rw [handler.headers_congr (looksAlike_withoutOrigin hforeign)]
  · intro result hresult header hheader hname
    rcases named_of_headers hresult hheader hname with ⟨-, hall⟩ | ⟨hnames, hown⟩
    · exact hforeign.notAll hall
    · exact hforeign.notOwn _ hnames hown

/-- A browser on a page whose address begins like an allowed one gets the answer that it would get
from anywhere; a browser on the allowed page is named. The headers are written in their own way. -/
theorem answers_foreign_as_none_to_lookalike :
    let handler : Handler := .files { config := { origins := ["https://a.example"] } }
    let depot : Depot := ⟨.memory ⟨[{ id := "BQAAAAAAAAA", mimeType := "image/png", etag := "e" }]⟩,
      {}⟩
    let asked (origin : String) : FileRequest :=
      ⟨"GET", "/v0/file/s/BQAAAAAAAAA", [("oRIGIN", origin), ("Accept", "image/*")], true⟩
    let stranger := asked "https://a.example.evil"
    let friend := asked "https://a.example"
    stranger.IsForeign handler.serveConfig ∧
      (handler.headers stranger).run depot = (handler.headers stranger.withoutOrigin).run depot ∧
      stranger.withoutOrigin.headers = [("Accept", "image/*")] ∧
      ∃ result, ((handler.headers friend).run depot).1 = .ok result ∧
        (CrossOrigin.originName, "https://a.example") ∈ result.headers ∧
        friend.NamesOrigin "https://a.example" := by
  intro handler depot asked stranger friend
  have hforeign : stranger.IsForeign handler.serveConfig := by
    refine ⟨by decide, ?_⟩
    rintro origin ⟨name, hmem, hname⟩
    simp only [stranger, asked, List.mem_cons, Prod.mk.injEq, List.not_mem_nil, or_false] at hmem
    rcases hmem with ⟨-, rfl⟩ | ⟨rfl, -⟩
    · decide
    · exact absurd hname (by decide)
  have hshown : ((handler.headers friend).run depot).1.toOption.map HeaderResult.headers = some
      [("Access-Control-Allow-Origin", "https://a.example"), ("Vary", "Origin"),
        ("Cache-Control", "no-cache, must-revalidate"), ("ETag", "\"e\"")] := by
    decide +kernel
  obtain ⟨result, hresult, hheaders⟩ := Option.map_eq_some_iff.mp hshown
  have hnamed : (CrossOrigin.originName, "https://a.example") ∈ result.headers := by
    rw [hheaders]
    exact List.mem_cons_self
  have hown := (answers_foreign_as_none handler friend depot).2 result _
    (ok_of_toOption hresult) hnamed
  refine ⟨hforeign, ((answers_foreign_as_none handler stranger depot).1 hforeign).1,
    by decide +kernel, result, ok_of_toOption hresult, hnamed, ?_⟩
  exact (hown.resolve_left fun hall => absurd hall.1 (by decide)).1

end Handler

end MediaDepot
