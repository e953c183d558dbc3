import MediaDepot.Proofs.ForeignOrigins

/-!
# MediaDepot.Proofs.Spellings

**The names of headers are read in any spelling.** A value is looked up by an entry in exactly the
asked spelling first, and by the first entry in any spelling otherwise. If no two names are the same
but for the case of their letters, the two ways cannot disagree: the value is that of the one entry
of the name (`Headers.DistinctNames.get?_eq_some_iff`). So it depends on the entries with their
names in small letters, and not on their order (`Headers.Respelled.perm`,
`Headers.Respelled.get?_eq`). The handlers look at headers by name only
(`Handler.looksAlike_respelled`), hence other spellings in another order make no difference to them.
-/

namespace MediaDepot

namespace Headers

/-! ### Names and their spellings -/

/-- The same name but for the case of its letters. -/
def SameName (name other : String) : Prop := Text.lower name = Text.lower other

instance (name other : String) : Decidable (SameName name other) :=
  inferInstanceAs (Decidable (Text.lower name = Text.lower other))

/-- Names written in ASCII are the same if they are so letter by letter. -/
theorem sameName_iff_of_ascii {name other : String} (hname : ∀ c ∈ name.toList, c.toNat < 128)
    (hother : ∀ c ∈ other.toList, c.toNat < 128) :
    SameName name other ↔ name.toList.map Char.toLower = other.toList.map Char.toLower := by
  rw [SameName, Text.lower_ascii hname, Text.lower_ascii hother, String.ofList_inj]

/-- No two of the names are the same but for the case of their letters. -/
def DistinctNames (headers : Headers) : Prop :=
  headers.Pairwise fun header other => ¬ SameName header.1 other.1

instance (headers : Headers) : Decidable headers.DistinctNames :=
  inferInstanceAs (Decidable (headers.Pairwise fun header other => ¬ SameName header.1 other.1))

/-- The same header, with its name in this or another spelling. -/
def SameHeader (header other : String × String) : Prop :=
  SameName header.1 other.1 ∧ header.2 = other.2

/-- The same headers in another order, and with names in other spellings. -/
def Respelled (headers headers' : Headers) : Prop :=
  ∃ ordered, headers.Perm ordered ∧ List.Forall₂ SameHeader ordered headers'

/-! ### Looking up a name -/

variable {headers headers' : Headers} {name value : String}

theorem distinctNames_iff :
    headers.DistinctNames ↔ (headers.inSmallLetters.map Prod.fst).Nodup := by
  rw [DistinctNames, inSmallLetters, List.map_map, List.Nodup, List.pairwise_map]
  rfl

/-- A name is in small letters among the headers if it is among them in some spelling. -/
theorem mem_inSmallLetters_iff : (Text.lower name, value) ∈ headers.inSmallLetters ↔
    ∃ spelling, SameName spelling name ∧ (spelling, value) ∈ headers := by
  simp [inSmallLetters, SameName, and_comm]

/-- A name that is not found is not there, in no spelling. -/
theorem not_sameName_of_get?_eq_none (h : headers.get? name = none) {header : String × String}
    (hmem : header ∈ headers) : ¬ SameName header.1 name := by
  rw [get?, Option.or_eq_none_iff, getAnyCase?, Option.map_eq_none_iff, List.find?_eq_none] at h
  simpa [SameName] using h.2 header hmem

namespace DistinctNames

theorem eq_of_sameName (h : headers.DistinctNames) {header other : String × String}
    (hheader : header ∈ headers) (hother : other ∈ headers) (hsame : SameName header.1 other.1) :
    header = other := by
  rw [distinctNames_iff, inSmallLetters, List.map_map] at h
  exact List.inj_on_of_nodup_map h hheader hother hsame

/-- **The value of a name** is that of the one entry of this name, whatever the spelling. -/
theorem get?_eq_some_iff (h : headers.DistinctNames) : headers.get? name = some value ↔
    ∃ spelling, SameName spelling name ∧ (spelling, value) ∈ headers := by
  constructor
  · intro hget
    obtain ⟨spelling, hmem, hsame⟩ := exists_mem_of_get? hget
    exact ⟨spelling, hsame, hmem⟩
  · rintro ⟨spelling, hsame, hmem⟩
    cases hget : headers.get? name with
    | none => exact absurd hsame (not_sameName_of_get?_eq_none hget hmem)
    | some found =>
        -- the entry that was found can be no other one
        obtain ⟨spelling', hmem', hsame'⟩ := exists_mem_of_get? hget
        have hentry := h.eq_of_sameName hmem' hmem (hsame'.trans hsame.symm)
        rw [(Prod.mk.inj hentry).2]

end DistinctNames

/-- Spellings do not count in small letters. -/
theorem inSmallLetters_eq (h : List.Forall₂ SameHeader headers headers') :
    headers.inSmallLetters = headers'.inSmallLetters := by
  induction h with
  | nil => rfl
  | cons hheader _ ih =>
      obtain ⟨hname, hvalue⟩ := hheader
      exact List.cons_eq_cons.mpr ⟨Prod.ext hname hvalue, ih⟩

namespace Respelled

/-- In small letters, headers that are respelled are the same but for their order. -/
theorem perm (h : headers.Respelled headers') :
    headers.inSmallLetters.Perm headers'.inSmallLetters := by
  obtain ⟨ordered, hperm, hspelled⟩ := h
  rw [← inSmallLetters_eq hspelled]
  exact hperm.map _

theorem distinctNames (h : headers.Respelled headers') (hdistinct : headers.DistinctNames) :
    headers'.DistinctNames := by
  rw [distinctNames_iff] at hdistinct ⊢
  exact (h.perm.map Prod.fst).nodup_iff.mp hdistinct

/-- **A value is found under its name in whatever order and spelling.** -/
theorem get?_eq (h : headers.Respelled headers') (hdistinct : headers.DistinctNames)
    (name : String) : headers.get? name = headers'.get? name := by
  apply Option.ext
  intro value
  rw [hdistinct.get?_eq_some_iff, (h.distinctNames hdistinct).get?_eq_some_iff,
    ← mem_inSmallLetters_iff, ← mem_inSmallLetters_iff, h.perm.mem_iff]

end Respelled

end Headers

namespace Handler

theorem looksAlike_respelled {config : ServeConfig} {request : FileRequest} {headers : Headers}
    (hdistinct : request.headers.DistinctNames) (h : request.headers.Respelled headers) :
    LooksAlike config request { request with headers } where
  method := rfl
  url := rfl
  serve := rfl
  origin := by rw [h.get?_eq hdistinct]
  held := h.get?_eq hdistinct _

/-- **The names of headers are read in any spelling.** If no two names in a request are the same but
for the case of their letters, the request comes to the same with either handler when its headers
stand in another order and their names are written in other spellings; and the value found under a
name, an empty one too, is that of the one header of this name. -/
theorem reads_names_in_any_spelling (handler : Handler) (request : FileRequest) (depot : Depot)
    (hdistinct : request.headers.DistinctNames) :
    (∀ headers, request.headers.Respelled headers →
      (handler.headers request).run depot = (handler.headers { request with headers }).run depot) ∧
    ∀ name value, request.headers.get? name = some value ↔
      ∃ spelling, Headers.SameName spelling name ∧ (spelling, value) ∈ request.headers := by
  constructor
  · intro headers hrespelled
    rw [handler.headers_congr (looksAlike_respelled hdistinct hrespelled)]
  · intro name value
    exact hdistinct.get?_eq_some_iff

/-- A client that holds a picture asks for it again, once with the usual names and once with others
in another order; a header without a value is found, too. -/
theorem reads_names_in_any_spelling_of_held_picture :
    let handler : Handler := .files { config := { origins := ["https://a.example"] } }
    let depot : Depot := ⟨.memory ⟨[{ id := "BQAAAAAAAAA", mimeType := "image/png", etag := "e" }]⟩,
      {}⟩
    let asked (headers : Headers) : FileRequest := ⟨"GET", "/v0/file/s/BQAAAAAAAAA", headers, true⟩
    let usual : Headers := [("Origin", "https://a.example"), ("Accept", ""),
      ("If-None-Match", "\"e\"")]
    let other : Headers := [("IF-NONE-MATCH", "\"e\""), ("oRIGIN", "https://a.example"),
      ("accept", "")]
    usual.DistinctNames ∧ usual.Respelled other ∧
      (handler.headers (asked usual)).run depot = (handler.headers (asked other)).run depot ∧
      ((handler.headers (asked usual)).run depot).1.toOption.map HeaderResult.status = some 304 ∧
      usual.get? "ACCEPT" = some "" := by
  intro handler depot asked usual other
  have hdistinct : usual.DistinctNames := by decide
  have hrespelled : usual.Respelled other := by
    -- the names are written in ASCII, so they are compared letter by letter
    have htag : Headers.SameName "If-None-Match" "IF-NONE-MATCH" :=
      (Headers.sameName_iff_of_ascii (by simp) (by simp)).mpr (by decide)
    have horigin : Headers.SameName "Origin" "oRIGIN" :=
      (Headers.sameName_iff_of_ascii (by simp) (by simp)).mpr (by decide)
    have haccept : Headers.SameName "Accept" "accept" :=
      (Headers.sameName_iff_of_ascii (by simp) (by simp)).mpr (by decide)
    refine ⟨[("If-None-Match", "\"e\""), ("Origin", "https://a.example"),
      ("Accept", "")], by decide, ?_⟩
    exact .cons ⟨htag, rfl⟩ (.cons ⟨horigin, rfl⟩ (.cons ⟨haccept, rfl⟩ .nil))
  obtain ⟨halike, hfound⟩ := reads_names_in_any_spelling handler (asked usual) depot hdistinct
  refine ⟨hdistinct, hrespelled, halike other hrespelled, by decide +kernel, ?_⟩
  exact (hfound "ACCEPT" "").mpr ⟨"Accept", by decide, by decide⟩

end Handler

end MediaDepot
