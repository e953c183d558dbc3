import MediaDepot.Proofs.HeadRequests

/-!
# MediaDepot.Proofs.Variation

**Whether an answer may be kept for requests from other origins.** A cache that keeps an answer
gives it to every request for the same URL, unless the answer says that it varies by the origin. A
folder says so only to requests from origins that it allows (`LocalHandler.answer_of_allowed`,
`LocalHandler.answer_of_not_allowed`), so of two answers that differ both say so just when both
origins are allowed or neither is (`LocalHandler.varies_iff_allowed`).
-/

namespace MediaDepot

/-- **The origin of the request is allowed.** -/
def Handler.AllowsOrigin (config : ServeConfig) (request : FileRequest) : Prop :=
  ∃ origin, request.headers.get? "Origin" = some origin ∧ origin ≠ "" ∧
    ("*" ∈ config.origins ∨ origin ∈ config.origins)

namespace HeaderResult

/-- The origins that may read the answer, if it names them. -/
def allowedOrigin? (result : HeaderResult) : Option String :=
  result.headers.lookup "Access-Control-Allow-Origin"

/-- A value names a request header by which the answer varies. -/
def NamesHeader (value name : String) : Prop :=
  ∃ piece ∈ Text.pieces ',' value.toList,
    Text.lower (Text.trim (String.ofList piece)) = Text.lower name

/-- **The answer says that it varies by the origin.** -/
def VariesByOrigin (result : HeaderResult) : Prop :=
  ∃ value, ("Vary", value) ∈ result.headers ∧ NamesHeader value "Origin"

end HeaderResult

namespace CrossOrigin

/-- The origin named in the answer is nothing just when that of the request is not allowed. -/
theorem allowedOrigin_eq_empty_iff {config : ServeConfig} {request : FileRequest} :
    allowedOrigin config.origins (request.headers.get? "Origin") = "" ↔
      ¬ Handler.AllowsOrigin config request := by
  unfold allowedOrigin Handler.AllowsOrigin
  rcases request.headers.get? "Origin" with _ | origin
  · simp
  · by_cases hempty : origin = ""
    · simp [hempty]
    · by_cases hall : "*" ∈ config.origins
      · simp [hempty, hall]
      · by_cases hown : origin ∈ config.origins
        all_goals simp [hempty, hall, hown]

/-- A request for a file under the serve URL gets the headers of an answer. -/
theorem crossOrigin_of_asksForFile {config : ServeConfig} {request : FileRequest}
    (hasks : Handler.AsksForFile request) (hserve : request.serve = true) :
    Handler.crossOrigin config request =
      answerHeaders (allowedOrigin config.origins (request.headers.get? "Origin")) := by
  have hpreflight : isPreflight (Text.upper request.method) = false := by
    rcases hasks with h | h <;> rw [h] <;> decide
  simp [Handler.crossOrigin, negotiate, hserve, hpreflight]

end CrossOrigin

namespace LocalHandler

variable {handler : LocalHandler} {request : FileRequest} {depot : Depot} {result : HeaderResult}

/-- **The headers before content** are those for other origins, and others that say nothing of
origins. -/
theorem headers_of_content (hasks : Handler.AsksForFile request)
    (h : ((handler.headers request).run depot).1 = .ok result) (hstatus : result.status = 0) :
    ∃ rest : Headers, (∀ header ∈ rest, header.1 = "Cache-Control" ∨ header.1 = "ETag") ∧
      result.headers = Handler.crossOrigin handler.config.toServeConfig request ++ rest := by
  obtain ⟨calls, hrun⟩ := handler.run_headers_of_asksForFile hasks depot
  rw [hrun] at h
  rcases hfound : Handler.resolve depot.records handler.config.toServeConfig request.url with
    failure | ⟨uid, record⟩
  all_goals
    rw [hfound] at h
    cases h
  simp only [answer] at hstatus ⊢
  split at hstatus
  · next hetag =>
      rw [if_pos hetag]
      exact ⟨_, by simp, rfl⟩
  · next hetag =>
      rw [if_neg hetag]
      split at hstatus
      · cases hstatus
      · next hholds =>
          rw [if_neg hholds]
          exact ⟨_, by simp, List.append_assoc ..⟩

/-- **A request from an allowed origin** is told who may read the answer, and that it varies. -/
theorem answer_of_allowed (hasks : Handler.AsksForFile request) (hserve : request.serve = true)
    (h : ((handler.headers request).run depot).1 = .ok result) (hstatus : result.status = 0)
    (hallowed : Handler.AllowsOrigin handler.config.toServeConfig request) :
    result.allowedOrigin? ≠ none ∧ result.VariesByOrigin := by
  obtain ⟨rest, -, hheaders⟩ := headers_of_content hasks h hstatus
  rw [CrossOrigin.crossOrigin_of_asksForFile hasks hserve] at hheaders
  have hnamed : CrossOrigin.allowedOrigin handler.config.origins (request.headers.get? "Origin") ≠
      "" :=
    fun hempty => CrossOrigin.allowedOrigin_eq_empty_iff.mp hempty hallowed
  simp only [CrossOrigin.answerHeaders, String.isEmpty_iff, if_neg hnamed] at hheaders
  constructor
  · simp [HeaderResult.allowedOrigin?, hheaders]
  · refine ⟨"Origin", by simp [hheaders], "Origin".toList, ?_, ?_⟩
    all_goals decide

/-- **A request from any other origin** is told neither. -/
theorem answer_of_not_allowed (hasks : Handler.AsksForFile request) (hserve : request.serve = true)
    (h : ((handler.headers request).run depot).1 = .ok result) (hstatus : result.status = 0)
    (hother : ¬ Handler.AllowsOrigin handler.config.toServeConfig request) :
    result.allowedOrigin? = none ∧ ¬ result.VariesByOrigin := by
  obtain ⟨rest, hrest, hheaders⟩ := headers_of_content hasks h hstatus
  rw [CrossOrigin.crossOrigin_of_asksForFile hasks hserve,
    CrossOrigin.allowedOrigin_eq_empty_iff.mpr hother] at hheaders
  have hnames : ∀ header ∈ result.headers, header.1 = "Cache-Control" ∨ header.1 = "ETag" := by
    rw [hheaders]
    exact hrest
  constructor
  · rw [HeaderResult.allowedOrigin?, List.lookup_eq_none_iff]
    intro header hheader
    rcases hnames header hheader with hname | hname <;> rw [hname] <;> decide
  · rintro ⟨value, hvary, -⟩
    have hother : "Vary" ≠ "Cache-Control" ∧ "Vary" ≠ "ETag" := by decide
    rcases hnames _ hvary with hname | hname
    · exact hother.1 hname
    · exact hother.2 hname

/-- **Whether answers may be kept.** Two requests for files, answered with content to follow: if the
answers name different origins, both say that they vary by the origin, just when the origins of both
requests are allowed or neither is. -/
theorem varies_iff_allowed (handler : LocalHandler) {first second : FileRequest} (depot : Depot)
    {one other : HeaderResult} (hfirst : Handler.AsksForFile first)
    (hsecond : Handler.AsksForFile second)
    (hserve : first.serve = true ∧ second.serve = true)
    (hone : ((handler.headers first).run depot).1 = .ok one)
    (hother : ((handler.headers second).run depot).1 = .ok other)
    (hstatus : one.status = 0 ∧ other.status = 0) :
    (one.allowedOrigin? ≠ other.allowedOrigin? → one.VariesByOrigin ∧ other.VariesByOrigin) ↔
      (Handler.AllowsOrigin handler.config.toServeConfig first ↔
        Handler.AllowsOrigin handler.config.toServeConfig second) := by
  by_cases hallowed : Handler.AllowsOrigin handler.config.toServeConfig first
  all_goals by_cases hallowed' : Handler.AllowsOrigin handler.config.toServeConfig second
  · -- both are told that the answer varies
    have hvaries := answer_of_allowed hfirst hserve.1 hone hstatus.1 hallowed
    have hvaries' := answer_of_allowed hsecond hserve.2 hother hstatus.2 hallowed'
    exact ⟨fun _ => ⟨fun _ => hallowed', fun _ => hallowed⟩, fun _ _ => ⟨hvaries.2, hvaries'.2⟩⟩
  · have hnamed := answer_of_allowed hfirst hserve.1 hone hstatus.1 hallowed
    have hbare := answer_of_not_allowed hsecond hserve.2 hother hstatus.2 hallowed'
    refine ⟨fun hkept => absurd (hkept ?_).2 hbare.2,
      fun hiff => absurd (hiff.mp hallowed) hallowed'⟩
    rw [hbare.1]
    exact hnamed.1
  · have hbare := answer_of_not_allowed hfirst hserve.1 hone hstatus.1 hallowed
    have hnamed := answer_of_allowed hsecond hserve.2 hother hstatus.2 hallowed'
    refine ⟨fun hkept => absurd (hkept ?_).1 hbare.2,
      fun hiff => absurd (hiff.mpr hallowed') hallowed⟩
    rw [hbare.1]
    exact hnamed.1.symm
  · -- neither answer names an origin
    have hbare := answer_of_not_allowed hfirst hserve.1 hone hstatus.1 hallowed
    have hbare' := answer_of_not_allowed hsecond hserve.2 hother hstatus.2 hallowed'
    refine ⟨fun _ => ⟨fun h => absurd h hallowed, fun h => absurd h hallowed'⟩, fun _ hdiffer => ?_⟩
    exact absurd (hbare.1.trans hbare'.1.symm) hdiffer

/-- What a folder with one file, open to these origins, answers to a GET with these headers. -/
def pictureHeaders (origins : List String) (headers : Headers) : Except Failure HeaderResult :=
  let handler : LocalHandler := { config := { origins } }
  let record : Record := { id := "BQAAAAAAAAA", mimeType := "image/png", etag := "e" }
  ((handler.headers ⟨"GET", "/v0/file/s/BQAAAAAAAAA", headers, true⟩).run
    ⟨.memory ⟨[record]⟩, {}⟩).1

/-- Two origins are allowed, and their answers differ. -/
theorem varies_iff_allowed_two_origins :
    let origins := ["https://a.example", "https://b.example"]
    ∃ one other, pictureHeaders origins [("Origin", "https://a.example")] = .ok one ∧
      pictureHeaders origins [("Origin", "https://b.example")] = .ok other ∧
      one.allowedOrigin? = some "https://a.example" ∧
      other.allowedOrigin? = some "https://b.example" ∧ one.VariesByOrigin ∧
        other.VariesByOrigin := by
  intro origins
  have hone : (pictureHeaders origins [("Origin", "https://a.example")]).toOption.map
      (fun one => (one.status, one.allowedOrigin?)) = some (0, some "https://a.example") := by
    decide +kernel
  have hother : (pictureHeaders origins [("Origin", "https://b.example")]).toOption.map
      (fun other => (other.status, other.allowedOrigin?)) = some (0, some "https://b.example") := by
    decide +kernel
  obtain ⟨one, hone, hnamed⟩ := Option.map_eq_some_iff.mp hone
  obtain ⟨other, hother, hnamed'⟩ := Option.map_eq_some_iff.mp hother
  obtain ⟨hstatus, hnamed⟩ := Prod.mk.inj hnamed
  obtain ⟨hstatus', hnamed'⟩ := Prod.mk.inj hnamed'
  have hvaries := (varies_iff_allowed _ _ (.inl (by decide)) (.inl (by decide)) ⟨rfl, rfl⟩
    (ok_of_toOption hone) (ok_of_toOption hother) ⟨hstatus, hstatus'⟩).mpr (iff_of_true
      ⟨"https://a.example", rfl, by decide, by decide⟩ ⟨"https://b.example",
        rfl, by decide, by decide⟩)
  have hdiffer : one.allowedOrigin? ≠ other.allowedOrigin? := by
    rw [hnamed, hnamed']
    decide
  exact ⟨one, other, ok_of_toOption hone, ok_of_toOption hother, hnamed, hnamed', hvaries hdiffer⟩

/-- **An answer that is kept and should not be**: a request without an origin comes first, and
nothing in its answer says that a browser of an allowed origin would get another one. -/
theorem unvaried_without_origin :
    let origins := ["https://a.example"]
    ∃ one other, pictureHeaders origins [("Origin", "https://a.example")] = .ok one ∧
      pictureHeaders origins [] = .ok other ∧ one.status = 0 ∧ other.status = 0 ∧
      one.allowedOrigin? = some "https://a.example" ∧ other.allowedOrigin? = none ∧
      ¬ other.VariesByOrigin := by
  intro origins
  have hone : (pictureHeaders origins [("Origin", "https://a.example")]).toOption.map
      (fun one => (one.status, one.allowedOrigin?)) = some (0, some "https://a.example") := by
    decide +kernel
  have hother : (pictureHeaders origins []).toOption.map
      (fun other => (other.status, other.headers)) =
        some (0, [("Cache-Control", "no-cache, must-revalidate"), ("ETag", "\"e\"")]) := by
    decide +kernel
  obtain ⟨one, hone, hnamed⟩ := Option.map_eq_some_iff.mp hone
  obtain ⟨other, hother, hbare⟩ := Option.map_eq_some_iff.mp hother
  obtain ⟨hstatus, hnamed⟩ := Prod.mk.inj hnamed
  obtain ⟨hstatus', hheaders⟩ := Prod.mk.inj hbare
  refine ⟨one, other, ok_of_toOption hone, ok_of_toOption hother, hstatus, hstatus', hnamed, ?_, ?_⟩
  · rw [HeaderResult.allowedOrigin?, hheaders]
    decide
  · rintro ⟨value, hvary, -⟩
    rw [hheaders] at hvary
    simp at hvary

end LocalHandler

end MediaDepot
