import MediaDepot.Proofs.ServeUrl

/-!
# MediaDepot.Proofs.UrlGrammar

**Which URLs name a file.** A URL that is a path is cut at its first number sign, and what stands
before that at its first question mark. What remains is the longest beginning without either sign,
and the rest begins with one of them (`Url.exists_tail`). So the path of such a URL is known from
its text alone (`Url.Rooted.exists_split`), and a file is named under a serve path just by the URLs
of one form (`Uid.ofUrl_eq_ok_iff`), which no part of the splitting is needed to describe
(`Uid.IsNamedBy`).
-/

namespace MediaDepot

open Text

/-! ### Paths and what follows them -/

namespace Url

/-- The text up to its first number sign, and of that the text up to its first question mark. -/
def pathOf (cs : List Char) : List Char := (splitAt '?' (splitAt '#' cs).1).1

/-- **Nothing is lost after a path**: it holds neither of the two signs, and one of them begins what
follows it, if anything does. -/
theorem exists_tail (cs : List Char) :
    ∃ tail, cs = pathOf cs ++ tail ∧ IsTail tail ∧ '?' ∉ pathOf cs ∧ '#' ∉ pathOf cs := by
  have hbefore := cut_eq '#' cs
  have hpath := cut_eq '?' (cut '#' cs).1
  have hquery : '?' ∉ pathOf cs := not_mem_cut_fst '?' _
  have hnumber : '#' ∉ (cut '#' cs).1 := not_mem_cut_fst '#' cs
  simp only [pathOf, splitAt] at hquery ⊢
  -- with a question mark in front of the number sign, the query comes first, then the fragment
  rcases hcut : cut '?' (cut '#' cs).1 with ⟨path, query⟩
  rw [hcut] at hpath hquery
  obtain ⟨rest, hrest, htail⟩ : ∃ rest, (cut '#' cs).1 = path ++ rest ∧ ∀ c ∈ rest.head?,
      c = '?' := by
    rcases query with _ | query
    · exact ⟨[], by simpa using hpath, by simp⟩
    · exact ⟨'?' :: query, hpath, fun c hc => by simpa [eq_comm] using hc⟩
  have hfragment : '#' ∉ path := fun h => hnumber (hrest ▸ List.mem_append_left rest h)
  rcases hparts : cut '#' cs with ⟨before, _ | fragment⟩
  all_goals
    rw [hparts] at hbefore hrest
    dsimp only at hbefore hrest
  · exact ⟨rest, by rw [hbefore, hrest], fun c hc => .inl (htail c hc), hquery, hfragment⟩
  · refine ⟨rest ++ '#' :: fragment, by rw [hbefore, hrest, List.append_assoc], fun c hc => ?_,
      hquery, hfragment⟩
    cases rest with
    | nil => exact .inr (by simpa [eq_comm] using hc)
    | cons first more => exact .inl (htail c hc)

/-- **A URL that is a path** is split into the path up to its query or fragment, with nothing before
it. -/
theorem Rooted.exists_split {url : String} (h : Rooted url.toList) :
    ∃ query fragment, split url = .ok ⟨[], [], pathOf url.toList, query, fragment⟩ := by
  have hclean : clean url.toList = url.toList := by simpa [Url.kept] using Front.none.clean_eq h []
  simp only [split, hclean, h.splitScheme_eq, h.splitHost_eq, Front.none.hostFault?_eq]
  exact ⟨_, _, rfl⟩

end Url

namespace Uid

/-! ### The form of a URL that names a file -/

/-- **The URL names this file**: after the serve URL comes a name without slashes, whose part before
the first point is a text of the identifier, and after the name nothing, or a query or fragment. -/
def IsNamedBy (u : Uid) (url serveUrl : String) : Prop :=
  ∃ name tail : String, url = serveUrl ++ name ++ tail ∧ (∀ c ∈ ['/', '?', '#'], c ∉ name.toList) ∧
    Url.IsTail tail.toList ∧ parse (String.ofList (name.toList.takeWhile (· ≠ '.'))) = u

/-- The identifier in a URL that is a path is that of the name after the serve path, if there is
one. -/
theorem ofUrl_of_rooted {url serveUrl : String} (hserve : ServePath serveUrl)
    (hurl : Url.Rooted url.toList) : ofUrl url serveUrl =
      .ok ((dropPrefix? serveUrl.toList (Url.pathOf url.toList)).elim .zero ofFileName) := by
  have hnonempty : url ≠ "" := by
    rintro rfl
    simpa using hurl.slash
  have hrooted : serveUrl ≠ "" := by
    rintro rfl
    simpa using hserve.slash
  obtain ⟨query, fragment, hsplit⟩ := hurl.exists_split
  rw [ofUrl, if_neg (by simp [hnonempty, hrooted]), hsplit]
  simp only [Except.map, Url.target, hserve.slash, beq_self_eq_true, if_true]
  cases dropPrefix? serveUrl.toList (Url.pathOf url.toList) <;> rfl

theorem ofFileName_eq_iff {u : Uid} (hu : u ≠ zero) {name : List Char} :
    ofFileName name = u ↔ '/' ∉ name ∧ parse (String.ofList (name.takeWhile (· ≠ '.'))) = u := by
  by_cases hslash : '/' ∈ name
  · simp [ofFileName, hslash, Ne.symm hu]
  · simp [ofFileName, hslash, cut_fst]

/-- **A file is named by the URLs of one form and by no others.** Under a serve URL that is a path,
and for a URL that is one, an identifier other than zero is found just if the URL is the serve URL,
a name without slashes whose part before the first point, or all of it, is a text of this
identifier, and nothing more than a query or a fragment. -/
theorem ofUrl_eq_ok_iff {url serveUrl : String} (hserve : ServePath serveUrl)
    (hurl : Url.Rooted url.toList)
    {u : Uid} (hu : u ≠ zero) : ofUrl url serveUrl = .ok u ↔ u.IsNamedBy url serveUrl := by
  rw [ofUrl_of_rooted hserve hurl, Except.ok.injEq]
  constructor
  · intro h
    obtain ⟨tail, htext, htail, hquery, hfragment⟩ := Url.exists_tail url.toList
    cases hname : dropPrefix? serveUrl.toList (Url.pathOf url.toList) with
    | none =>
        rw [hname] at h
        exact absurd h.symm hu
    | some name =>
        rw [hname] at h
        rw [dropPrefix?_eq_some_iff] at hname
        obtain ⟨hslash, hparse⟩ := (ofFileName_eq_iff hu).mp h
        rw [hname] at htext
        rw [hname, List.mem_append, not_or] at hquery hfragment
        refine ⟨String.ofList name, String.ofList tail, ?_,
          ?_, by simpa using htail, by simpa using hparse⟩
        · exact String.toList_injective (by simpa using htext)
        · simp [hslash, hquery.2, hfragment.2]
  · rintro ⟨name, tail, rfl, hname, htail, hparse⟩
    simp only [List.forall_mem_cons] at hname
    obtain ⟨hslash, hquery, hfragment, -⟩ := hname
    have hpath : Url.pathOf (serveUrl ++ name ++ tail).toList = serveUrl.toList ++ name.toList := by
      rw [String.toList_append, String.toList_append]
      refine Url.path_append ?_ ?_ htail
      · simpa [hquery] using hserve.clear '?' (by simp)
      · simpa [hfragment] using hserve.clear '#' (by simp)
    rw [hpath, dropPrefix?_eq_some_iff.mpr rfl]
    exact (ofFileName_eq_iff hu).mpr ⟨hslash, hparse⟩

/-- A name with two points, and a fragment with a question mark, a slash and a point. -/
theorem ofUrl_eq_ok_iff_archive :
    let path := ({} : ServeConfig).serveUrl
    let url := "/v0/file/s/BQAAAAAAAAA.tar.gz#a?b/c.d"
    ServePath path ∧ Url.Rooted url.toList ∧ (⟨5⟩ : Uid) ≠ zero ∧ ofUrl url path = .ok ⟨5⟩ ∧
      (⟨5⟩ : Uid).IsNamedBy url path := by
  intro path url
  have hurl : Url.Rooted url.toList := by
    refine ⟨by decide, by decide, fun c hc => ?_⟩
    have hkept : url.toList.all (fun c => !Url.isDropped c) = true := by decide
    simpa using List.all_eq_true.mp hkept c hc
  have hzero : (⟨5⟩ : Uid) ≠ zero := by decide
  have hnamed : (⟨5⟩ : Uid).IsNamedBy url path := by
    refine ⟨"BQAAAAAAAAA.tar.gz", "#a?b/c.d", by decide, by simp, ?_, by decide +kernel⟩
    simp [Url.IsTail]
  exact ⟨servePath_default, hurl, hzero, (ofUrl_eq_ok_iff servePath_default hurl hzero).mpr hnamed,
    hnamed⟩

end Uid

end MediaDepot
