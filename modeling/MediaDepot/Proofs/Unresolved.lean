import MediaDepot.Proofs.Lookups
import MediaDepot.Proofs.Splitting

/-!
# MediaDepot.Proofs.Unresolved

**What becomes of a request whose URL leads to no record.** If the URL can be read, the file is not
found. A URL cannot be read if there is something wrong with its host: then the request fails with
the fault of the URL, which is no media error. So the file is not found just when the URL can be
read (`Handler.unresolved_iff`).

It can be read whenever it or the serve URL is empty, or its host is in order
(`Uid.exists_ofUrl_iff`).
-/

namespace MediaDepot

/-- The URL can be read: there is nothing wrong with its host, or nothing is looked for in it. -/
def Uid.IsReadable (url serveUrl : String) : Prop :=
  url = "" ∨ serveUrl = "" ∨ Url.hostFault? (Url.hostText url) = none

/-- **An identifier is found in a URL, be it zero, just when the URL can be read.** -/
theorem Uid.exists_ofUrl_iff {url serveUrl : String} :
    (∃ uid, ofUrl url serveUrl = .ok uid) ↔ IsReadable url serveUrl := by
  by_cases hempty : url = "" ∨ serveUrl = ""
  · have hzero : ofUrl url serveUrl = .ok .zero := by simp [ofUrl, hempty]
    rw [IsReadable, ← or_assoc]
    exact ⟨fun _ => .inl hempty, fun _ => ⟨.zero, hzero⟩⟩
  · rw [IsReadable, ← or_assoc, or_iff_right hempty, ← Url.exists_split_iff]
    simp only [ofUrl, String.isEmpty_iff, Bool.or_eq_true, hempty, if_false]
    cases Url.split url <;> simp [Except.map]

/-- Something is wrong with a URL just when it cannot be read. -/
theorem Uid.exists_fault_iff {url serveUrl : String} :
    (∃ fault, ofUrl url serveUrl = .error fault) ↔ ¬ IsReadable url serveUrl := by
  rw [← exists_ofUrl_iff]
  cases ofUrl url serveUrl <;> simp

namespace Handler

/-- The URL leads to no record: no identifier is found in it, or one that the store does not
have. -/
def LeadsNowhere (records : RecordStore) (config : ServeConfig) (url : String) : Prop :=
  ∀ uid, Uid.ofUrl url config.serveUrl = .ok uid → uid = .zero ∨ records.isTaken uid.text = false

variable {records : RecordStore} {config : ServeConfig} {url : String}

/-- A URL that can be read and leads to no record names no file that can be found. -/
theorem resolve_of_readable (h : LeadsNowhere records config url)
    (hreadable : Uid.IsReadable url config.serveUrl) :
    ∃ id, resolve records config url = .error (.media (.notFound id none)) := by
  obtain ⟨uid, hnamed⟩ := Uid.exists_ofUrl_iff.mpr hreadable
  by_cases hzero : uid.isZero = true
  · exact ⟨none, by simp [resolve, hnamed, hzero]⟩
  · refine ⟨some uid.text, ?_⟩
    have hnot : records.isTaken uid.text = false := (h uid hnamed).resolve_left fun heq => by
      subst heq
      exact hzero rfl
    simp [resolve, hnamed, hzero, RecordStore.look_of_not_taken hnot, Except.bind]

/-- A URL that something is wrong with leads to no record. -/
theorem leadsNowhere_of_fault {fault : Url.Fault}
    (h : Uid.ofUrl url config.serveUrl = .error fault) :
    LeadsNowhere records config url := fun uid huid => by
  cases h.symm.trans huid

theorem resolve_of_fault {fault : Url.Fault} (h : Uid.ofUrl url config.serveUrl = .error fault) :
    resolve records config url = .error (.value (.url fault)) := by
  simp [resolve, h]

/-- **A request whose URL leads to no record is not found just when the URL can be read.** Whatever
the URL, an identifier is found in it just when it can be read; and a request for a file, headers
and content alike, fails with the fault of the URL just when that cannot be read. -/
theorem unresolved_iff (handler : Handler) {depot : Depot} {request : FileRequest}
    (hasks : AsksForFile request)
    (hnowhere : LeadsNowhere depot.records handler.serveConfig request.url) :
    (∀ url serveUrl, (∃ uid, Uid.ofUrl url serveUrl = .ok uid) ↔ Uid.IsReadable url serveUrl) ∧
      ∃ failure, ((handler.headers request).run depot).1 = .error failure ∧
        (∀ files, handler = .files files →
          ((files.download request.url).run depot).1 = .error failure) ∧
        ((∃ id, failure = .media (.notFound id none)) ↔
          Uid.IsReadable request.url handler.serveConfig.serveUrl) ∧
        ((∃ fault, failure = .value (.url fault)) ↔
          ¬ Uid.IsReadable request.url handler.serveConfig.serveUrl) := by
  refine ⟨fun url serveUrl => Uid.exists_ofUrl_iff, ?_⟩
  -- whatever keeps the URL from being resolved ends the request
  have hfails {failure : Failure}
      (h : resolve depot.records handler.serveConfig request.url = .error failure) :
      ((handler.headers request).run depot).1 = .error failure ∧
        ∀ files, handler = .files files →
          ((files.download request.url).run depot).1 = .error failure := by
    refine ⟨handler.run_headers_of_failed ?_, ?_⟩
    · rw [opening_of_asksForFile hasks, h]
      rfl
    · rintro files rfl
      rw [files.run_download_eq, show resolve depot.records files.config.toServeConfig _ = _ from h]
      rfl
  by_cases hreadable : Uid.IsReadable request.url handler.serveConfig.serveUrl
  · obtain ⟨id, hresolve⟩ := resolve_of_readable hnowhere hreadable
    obtain ⟨hheaders, hdownload⟩ := hfails hresolve
    exact ⟨_, hheaders, hdownload, ⟨fun _ => hreadable, fun _ => ⟨id, rfl⟩⟩,
      ⟨nofun, fun h => absurd hreadable h⟩⟩
  · obtain ⟨fault, hfault⟩ := Uid.exists_fault_iff.mpr hreadable
    obtain ⟨hheaders, hdownload⟩ := hfails (resolve_of_fault hfault)
    exact ⟨_, hheaders, hdownload, ⟨nofun, fun h => absurd h hreadable⟩,
      ⟨fun _ => hreadable, fun _ => ⟨fault, rfl⟩⟩⟩

/-- A request for a URL with a bracket that is not closed in its host, for folders. -/
theorem unresolved_iff_of_openBracket :
    let request : FileRequest := ⟨"GET", "http://[x/v0/file/s/BQAAAAAAAAA", [], true⟩
    let depot : Depot := ⟨.memory {}, default⟩
    let handler : Handler := .files {}
    AsksForFile request ∧ LeadsNowhere depot.records handler.serveConfig request.url ∧
      ¬ Uid.IsReadable request.url handler.serveConfig.serveUrl ∧
      ∃ failure, ((handler.headers request).run depot).1 = .error failure ∧
        ∃ fault, failure = .value (.url fault) := by
  intro request depot handler
  have hasks : AsksForFile request := .inl (by decide +kernel)
  have hfault : Uid.ofUrl request.url handler.serveConfig.serveUrl = .error .unpairedBracket := by
    decide +kernel
  have hnowhere : LeadsNowhere depot.records handler.serveConfig request.url :=
    leadsNowhere_of_fault hfault
  have hreadable : ¬ Uid.IsReadable request.url handler.serveConfig.serveUrl :=
    Uid.exists_fault_iff.mp ⟨_, hfault⟩
  obtain ⟨-, failure, hheaders, -, -, hunread⟩ := unresolved_iff handler hasks hnowhere
  exact ⟨hasks, hnowhere, hreadable, failure, hheaders, hunread.mpr hreadable⟩

/-- **The host of a URL can make a request for a file fail otherwise than by not being found**, with
either handler: no identifier is found in this URL, not even zero. -/
theorem unclosed_bracket_fails :
    let request : FileRequest := ⟨"GET", "http://[x/v0/file/s/BQAAAAAAAAA", [], true⟩
    let depot : Depot := ⟨.memory {}, default⟩
    (¬ ∃ uid, Uid.ofUrl request.url "/v0/file/s/" = .ok uid) ∧
      LeadsNowhere depot.records {} request.url ∧
      ((Handler.headers (.files {}) request).run depot).1 =
        .error (.value (.url .unpairedBracket)) ∧
      ((Handler.headers (.bucket ⟨{}, true⟩) request).run depot).1 =
        .error (.value (.url .unpairedBracket)) ∧
      ((LocalHandler.download {} request.url).run depot).1 =
        .error (.value (.url .unpairedBracket)) := by
  intro request depot
  have hfault : Uid.ofUrl request.url "/v0/file/s/" = .error .unpairedBracket := by decide +kernel
  have hasks : AsksForFile request := .inl (by decide +kernel)
  have hresolve : resolve depot.records {} request.url = .error (.value (.url .unpairedBracket)) :=
    resolve_of_fault hfault
  have hopening : opening depot.records {} (Text.upper request.method) request =
      .error (.value (.url .unpairedBracket)) := by
    rw [opening_of_asksForFile hasks, hresolve]
    rfl
  refine ⟨?_, leadsNowhere_of_fault hfault, run_headers_of_failed _ hopening,
    run_headers_of_failed _ hopening, ?_⟩
  · rw [hfault]
    exact nofun
  · rw [LocalHandler.run_download_eq, show resolve depot.records _ request.url = _ from hresolve]
    rfl

end Handler

end MediaDepot
