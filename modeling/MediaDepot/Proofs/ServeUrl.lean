import MediaDepot.Config.Basic
import MediaDepot.Proofs.Identifiers
import MediaDepot.Proofs.Splitting

/-!
# MediaDepot.Proofs.ServeUrl

**The URL of an uploaded file leads back to its identifier.** Splitting such a URL cuts off what
stands before the path and what follows it (`Url.Front.exists_split`). What follows the serve URL in
the rest is the file name, whether the serve URL is a path or begins with a scheme and a host
(`Uid.ofUrl_of_front`), and the identifier is the part before the first point
(`Uid.ofFileName_append`).

The suffix of a file name comes from the table of media types. All that is needed of the table is
`Mime.isSuffix_of_mem`: every suffix begins with a point and holds nothing that means anything in a
URL. `Uid.leads_back` says it of every suffix of this form.
-/

namespace MediaDepot

open Text

/-- The characters that end a path or are dropped from a URL, and the slash. -/
def Url.delimiters : List Char := ['/', '?', '#', '\t', '\r', '\n']

/-! ### File names -/

/-- A serve URL that is a path: one slash and not two at its beginning, and none of the characters
that end a path or are dropped. -/
structure ServePath (serveUrl : String) : Prop where
  slash : serveUrl.toList.head? = some '/'
  single : serveUrl.toList.tail.head? ≠ some '/'
  clear : ∀ c ∈ ['?', '#', '\t', '\r', '\n'], c ∉ serveUrl.toList

/-- The serve URL that is used if none is given is a path. -/
theorem servePath_default : ServePath ({} : ServeConfig).serveUrl := by
  refine ⟨by decide, by decide, fun c hc => ?_⟩
  have hclear : ['?', '#', '\t', '\r', '\n'].all
      (fun c => !(({} : ServeConfig).serveUrl.toList.contains c)) = true := by decide
  simpa using List.all_eq_true.mp hclear c hc

/-- A file name that holds nothing that means anything in a URL. -/
structure PlainName (name : List Char) : Prop where
  nonempty : name ≠ []
  clear : ∀ c ∈ Url.delimiters, c ∉ name

/-- Neither a serve path nor a file name holds what ends a path or is dropped from it. -/
theorem ServePath.not_mem_append {serveUrl : String} (h : ServePath serveUrl) {name : List Char}
    (hname : PlainName name) {c : Char} (hc : c ∈ ['?', '#', '\t', '\r', '\n']) :
    c ∉ serveUrl.toList ++ name := by
  rw [List.mem_append, not_or]
  exact ⟨h.clear c hc, hname.clear c (List.mem_cons_of_mem _ hc)⟩

theorem ServePath.rooted_append {serveUrl : String} (h : ServePath serveUrl) {name : List Char}
    (hname : PlainName name) : Url.Rooted (serveUrl.toList ++ name) := by
  have hkept : ∀ c ∈ serveUrl.toList ++ name, Url.isDropped c = false := by
    intro c hc
    have hout (d : Char) (hd : d ∈ ['?', '#', '\t', '\r', '\n']) : c ≠ d := by
      rintro rfl
      exact h.not_mem_append hname hd hc
    simp [Url.isDropped, hout '\t' (by simp), hout '\n' (by simp), hout '\r' (by simp)]
  have hrooted : Url.Rooted serveUrl.toList :=
    ⟨h.slash, h.single, fun c hc => hkept c (List.mem_append_left _ hc)⟩
  -- a serve URL of one slash is followed by the name, which begins with none
  refine hrooted.append (fun hslash => ?_) fun c hc => hkept c (List.mem_append_right _ hc)
  exact hname.clear '/' (by decide) (List.mem_of_mem_head? hslash)

/-- The identifier in a URL that goes on after the serve URL with a file name. -/
theorem Uid.ofUrl_of_split {url serveUrl : String} {parts : Url} {name : List Char}
    (hsplit : Url.split url = .ok parts) (hurl : url ≠ "") (hserve : serveUrl ≠ "")
    (htarget : parts.target (serveUrl.toList.head? == some '/') = serveUrl.toList ++ name) :
    ofUrl url serveUrl = .ok (ofFileName name) := by
  have hdrop : dropPrefix? serveUrl.toList (serveUrl.toList ++ name) = some name :=
    dropPrefix?_eq_some_iff.mpr rfl
  simp [ofUrl, hurl, hserve, hsplit, Except.map, htarget, hdrop]

/-- **The identifier in a URL under a serve URL** is the one that the file name begins with. The
serve URL is a path, or this path with what stands before it. -/
theorem Uid.ofUrl_of_front {front scheme host tail : List Char} {path name url : String}
    (hfront : Url.Front front scheme host) (hpath : ServePath path) (hname : PlainName name.toList)
    (htail : Url.IsTail tail) (hurl : url.toList = front ++ (path.toList ++ name.toList ++ tail)) :
    ofUrl url path = .ok (ofFileName name.toList) ∧
      ∀ serveUrl : String, serveUrl.toList = front ++ path.toList →
        ofUrl url serveUrl = .ok (ofFileName name.toList) := by
  obtain ⟨query, fragment, hsplit⟩ := hfront.exists_split (hpath.rooted_append hname)
    (hpath.not_mem_append hname (by simp)) (hpath.not_mem_append hname (by simp)) htail hurl
  have hnonempty : url ≠ "" := by
    rintro rfl
    simp [hname.nonempty] at hurl
  have hrooted : path ≠ "" := by
    rintro rfl
    simpa using hpath.slash
  have hbare : ofUrl url path = .ok (ofFileName name.toList) :=
    ofUrl_of_split hsplit hnonempty hrooted (by simp [Url.target, hpath.slash])
  refine ⟨hbare, fun serveUrl hserve => ?_⟩
  cases hfront with
  | none =>
      obtain rfl : serveUrl = path := String.toList_injective (by simpa using hserve)
      exact hbare
  | site hscheme hhost =>
      -- a serve URL that begins with a scheme is compared with the whole URL
      have hletter : (serveUrl.toList.head? == some '/') = false := by
        rcases hscheme with rfl | rfl <;> simp [hserve]
      have hserveUrl : serveUrl ≠ "" := by
        rintro rfl
        simp at hserve
      refine ofUrl_of_split hsplit hnonempty hserveUrl ?_
      rw [hletter]
      simp [Url.target, hserve]

/-- Is it a suffix: empty, or a point followed by what means nothing in a URL? -/
def Mime.isSuffix (suffix : String) : Bool :=
  match suffix.toList with
  | [] => true
  | c :: rest => c == '.' && rest.all fun c => !Url.delimiters.contains c

/-- Every suffix of the table is one. -/
theorem Mime.isSuffix_of_mem {entry : String × String} (h : entry ∈ table) :
    isSuffix entry.1 = true := by
  have hall : table.all (fun entry => isSuffix entry.1) = true := by decide
  exact List.all_eq_true.mp hall entry h

theorem Mime.isSuffix_suffixOf? (mimeType : String) :
    isSuffix ((suffixOf? mimeType).getD "") = true := by
  rw [suffixOf?]
  cases hfind : table.find? fun entry => entry.2 == lower mimeType with
  | none => rfl
  | some entry => exact isSuffix_of_mem (List.mem_of_find?_eq_some hfind)

/-- The identifier before a suffix is read back. -/
theorem Uid.ofFileName_append (u : Uid) {suffix : String} (h : Mime.isSuffix suffix = true) :
    ofFileName (u.text ++ suffix).toList = u := by
  have htext (c : Char) (hc : c ∉ textAlphabet) : c ∉ u.text.toList := fun hm => hc (mem_text hm)
  have hpoint : '.' ∉ u.text.toList := htext '.' (by decide)
  have hslash : '/' ∉ u.text.toList := htext '/' (by decide)
  rw [String.toList_append, ofFileName]
  -- no letter of the text is a point, so the first point is that of the suffix
  cases hs : suffix.toList with
  | nil => simp [hslash, cut_of_not_mem hpoint, parse_text]
  | cons c rest =>
      simp only [Mime.isSuffix, hs, Bool.and_eq_true, beq_iff_eq, List.all_eq_true] at h
      obtain ⟨rfl, hrest⟩ := h
      have hnot : '/' ∉ rest := fun hm => by simpa [Url.delimiters] using hrest '/' hm
      simp [hslash, hnot, cut_append hpoint, parse_text]

/-- A public text with a suffix holds nothing that means anything in a URL. -/
theorem plainName_append {u : Uid} (h : u.isZero = false) {suffix : String}
    (hsuffix : Mime.isSuffix suffix = true) : PlainName (u.text ++ suffix).toList := by
  rw [String.toList_append]
  refine ⟨by simp [Uid.text_ne_empty h], fun c hc hm => ?_⟩
  rcases List.mem_append.mp hm with hm | hm
  · have hletters : Url.delimiters.all (fun d => !Uid.textAlphabet.contains d) = true := by decide
    have hletter := List.all_eq_true.mp hletters c hc
    simp [Uid.mem_text hm] at hletter
  · unfold Mime.isSuffix at hsuffix
    split at hsuffix
    · next hnil => simp [hnil] at hm
    · next first rest hcons =>
        rw [hcons] at hm
        simp only [Bool.and_eq_true, beq_iff_eq, List.all_eq_true] at hsuffix
        obtain ⟨rfl, hrest⟩ := hsuffix
        rcases List.mem_cons.mp hm with rfl | hm
        · exact absurd hc (by decide)
        · simpa [hc] using hrest c hm

/-- **A URL with a file name leads back to the file**, whatever stands before the serve path and
whatever follows the name. -/
theorem Uid.ofUrl_append {front scheme host tail : List Char} {path suffix url : String}
    (hfront : Url.Front front scheme host) (hpath : ServePath path) {u : Uid}
    (hu : u.isZero = false)
    (hsuffix : Mime.isSuffix suffix = true) (htail : Url.IsTail tail)
    (hurl : url.toList = front ++ (path.toList ++ (u.text ++ suffix).toList ++ tail)) :
    ofUrl url path = .ok u ∧
      ∀ serveUrl : String, serveUrl.toList = front ++ path.toList → ofUrl url serveUrl = .ok u := by
  have hfound := ofUrl_of_front hfront hpath (plainName_append hu hsuffix) htail hurl
  rwa [ofFileName_append u hsuffix] at hfound

/-- **The URL of a file leads back to its identifier.** -/
theorem Uid.ofUrl_fileName {serveUrl : String} (h : ServePath serveUrl) {u : Uid}
    (hu : u.isZero = false) (mimeType : Option String) :
    Uid.ofUrl (serveUrl ++ fileName u.text mimeType) serveUrl = .ok u := by
  have hsuffix := Mime.isSuffix_suffixOf? (mimeType.getD "")
  have htail : Url.IsTail [] := nofun
  exact (ofUrl_append .none h hu hsuffix htail (by simp [fileName])).1

/-! ### Returned URLs -/

/-- The beginning of an absolute URL: a scheme of the web, and a host in ASCII letters, digits,
points and hyphens, perhaps with a port. -/
def Url.IsOrigin (origin : String) : Prop :=
  ∃ scheme host, IsWebScheme scheme ∧ isPlainHost host = true ∧
    origin.toList = scheme ++ "://".toList ++ host

/-- **Every URL that an upload returns leads back to its record.** The name of a file, with the
suffix for its media type or with any other suffix, is found again behind a serve URL that is a
path, also if a host stands before the path, and behind a serve URL with a host, whatever query or
fragment follows. -/
theorem Uid.leads_back {u : Uid} (hu : u ≠ zero) (mimeType : Option String) {suffix : String}
    (hsuffix : Mime.isSuffix suffix = true) {path origin tail : String} (hpath : ServePath path)
    (horigin : Url.IsOrigin origin) (htail : Url.IsTail tail.toList) :
    ∀ name ∈ [fileName u.text mimeType, u.text ++ suffix],
      ofUrl (path ++ name ++ tail) path = .ok u ∧
        ofUrl (origin ++ path ++ name ++ tail) path = .ok u ∧
        ofUrl (origin ++ path ++ name ++ tail) (origin ++ path) = .ok u := by
  have hnonzero : u.isZero = false := isZero_eq_false hu
  obtain ⟨scheme, host, hscheme, hhost, horigin⟩ := horigin
  intro name hname
  -- the suffix for a media type is one like any other
  obtain ⟨suffix, hsuffix, rfl⟩ : ∃ suffix, Mime.isSuffix suffix = true ∧
      name = u.text ++ suffix := by
    rcases List.mem_cons.mp hname with rfl | hname
    · exact ⟨_, Mime.isSuffix_suffixOf? _, rfl⟩
    · exact ⟨suffix, hsuffix, List.mem_singleton.mp hname⟩
  have hbare : (path ++ (u.text ++ suffix) ++ tail).toList =
      [] ++ (path.toList ++ (u.text ++ suffix).toList ++ tail.toList) := by simp
  have hhosted : (origin ++ path ++ (u.text ++ suffix) ++ tail).toList =
      scheme ++ "://".toList ++ host ++
        (path.toList ++ (u.text ++ suffix).toList ++ tail.toList) := by
    simp [horigin]
  obtain ⟨hsame, hserve⟩ :=
    ofUrl_append (.site hscheme hhost) hpath hnonzero hsuffix htail hhosted
  exact ⟨(ofUrl_append .none hpath hnonzero hsuffix htail hbare).1, hsame,
    hserve (origin ++ path) (by simp [horigin])⟩

/-- A picture behind a path, behind a host with a port and behind an absolute serve URL, with a
query and a fragment. -/
theorem Uid.leads_back_picture :
    let path := ({} : ServeConfig).serveUrl
    let origin := "https://cdn.example.com:8443"
    let name := "BQAAAAAAAAA.png"
    let tail := "?asatt=1#top"
    (⟨5⟩ : Uid) ≠ zero ∧ Mime.isSuffix ".webp" = true ∧ ServePath path ∧ Url.IsOrigin origin ∧
      Url.IsTail tail.toList ∧ ofUrl (path ++ name ++ tail) path = .ok ⟨5⟩ ∧
      ofUrl (origin ++ path ++ name ++ tail) path = .ok ⟨5⟩ ∧
      ofUrl (origin ++ path ++ name ++ tail) (origin ++ path) = .ok ⟨5⟩ := by
  intro path origin name tail
  have hzero : (⟨5⟩ : Uid) ≠ zero := by decide
  have hsuffix : Mime.isSuffix ".webp" = true := by decide
  have horigin : Url.IsOrigin origin :=
    ⟨"https".toList, "cdn.example.com:8443".toList, .inr rfl, by decide, by decide⟩
  have htail : Url.IsTail tail.toList := by simp [Url.IsTail, tail]
  have hname : name ∈ [fileName (text ⟨5⟩) (some "image/png"), text ⟨5⟩ ++ ".webp"] := by
    decide +kernel
  exact ⟨hzero, hsuffix, servePath_default, horigin, htail,
    leads_back hzero (some "image/png") hsuffix servePath_default horigin htail name hname⟩

end MediaDepot
