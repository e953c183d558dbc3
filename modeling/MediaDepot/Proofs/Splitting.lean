import Mathlib.Data.List.TakeDrop
import MediaDepot.Url.Split

/-!
# MediaDepot.Proofs.Splitting

**What a URL is split into, and when it cannot be split.** Splitting takes the scheme off first,
then the host, then the fragment and the query. Only the host can be at fault, so a URL is split
unless its host is (`Url.exists_split_iff`).

A path that begins with one slash keeps its form through all of this (`Url.Rooted`), whatever stands
before it: nothing, or a scheme of the web and a host (`Url.Front`). `Url.Front.exists_split` says
that the path of such a URL is just what stands between its beginning and its query or fragment.
-/

namespace MediaDepot.Url

open Text

/-! ### Faults -/

/-- The host of a URL, as it is written there. -/
def hostText (url : String) : List Char := (splitHost (splitScheme (clean url.toList)).2).1

/-- **A URL is split unless there is something wrong with its host.** -/
theorem exists_split_iff {url : String} :
    (∃ parts, split url = .ok parts) ↔ hostFault? (hostText url) = none := by
  simp only [split, hostText]
  cases hostFault? (splitHost (splitScheme (clean url.toList)).2).1 <;> simp

/-- Nothing is wrong with a host in ASCII that has no brackets. -/
theorem hostFault?_eq_none {host : List Char} (hopen : '[' ∉ host) (hclose : ']' ∉ host)
    (hascii : ∀ c ∈ host, c.toNat < 128) : hostFault? host = none := by
  have hbracket : bracketFault? host = none := by simp [bracketFault?, hopen, hclose]
  have hplain : (host.any fun c => disguises.contains c.toNat) = false := by
    rw [List.any_eq_false]
    intro c hc hin
    have hall : disguises.all (fun code => 128 ≤ code) = true := by decide
    have hlarge := List.all_eq_true.mp hall c.toNat (by simpa using hin)
    exact absurd (hascii c hc) (by simpa using hlarge)
  rw [hostFault?, hbracket, hplain]
  rfl

/-! ### Plain hosts -/

/-- May the character stand in the name of a plain host? -/
def isHostLetter (c : Char) : Bool := c.isAlphanum || c == '.' || c == '-'

/-- A host in ASCII letters, digits, points and hyphens, perhaps with a port. -/
def isPlainHost (host : List Char) : Bool :=
  (cut ':' host).1.all isHostLetter && ((cut ':' host).2.getD []).all Char.isDigit

variable {host : List Char}

theorem mem_of_isPlainHost (h : isPlainHost host = true) {c : Char} (hc : c ∈ host) :
    isHostLetter c = true ∨ c = ':' := by
  simp only [isPlainHost, Bool.and_eq_true, List.all_eq_true] at h
  obtain ⟨hname, hport⟩ := h
  have hcut := cut_eq ':' host
  rcases hparts : cut ':' host with ⟨name, _ | port⟩
  all_goals
    rw [hparts] at hname hport hcut
    dsimp only at hcut
    rw [hcut] at hc
  · exact .inl (hname c hc)
  · rcases List.mem_append.mp hc with hc | hc
    · exact .inl (hname c hc)
    · rcases List.mem_cons.mp hc with rfl | hc
      · exact .inr rfl
      · have hdigit : c.isDigit = true := hport c hc
        exact .inl (by simp [isHostLetter, Char.isAlphanum, hdigit])

/-- Any other character is missing from a plain host. -/
theorem ne_of_mem_plainHost (h : isPlainHost host = true) {c : Char} (hc : c ∈ host) (other : Char)
    (hletter : isHostLetter other = false) (hcolon : other ≠ ':') : c ≠ other := by
  rintro rfl
  rcases mem_of_isPlainHost h hc with hin | hin
  · simp [hletter] at hin
  · exact hcolon hin

theorem toNat_lt_of_isAlphanum {c : Char} (h : c.isAlphanum = true) : c.toNat < 128 := by
  have hval : c.toNat = c.val.toNat := rfl
  have hlast : 'Z'.val.toNat = 90 ∧ 'z'.val.toNat = 122 ∧ '9'.val.toNat = 57 := ⟨rfl, rfl, rfl⟩
  delta Char.isAlphanum Char.isAlpha Char.isUpper Char.isLower Char.isDigit at h
  simp only [Bool.or_eq_true, Bool.and_eq_true, decide_eq_true_eq, ge_iff_le,
    UInt32.le_iff_toNat_le] at h
  omega

theorem hostFault?_of_isPlainHost (h : isPlainHost host = true) : hostFault? host = none := by
  refine hostFault?_eq_none ?_ ?_ fun c hc => ?_
  · exact fun hc => ne_of_mem_plainHost h hc '[' (by decide) (by decide) rfl
  · exact fun hc => ne_of_mem_plainHost h hc ']' (by decide) (by decide) rfl
  · rcases mem_of_isPlainHost h hc with hletter | rfl
    · simp only [isHostLetter, Bool.or_eq_true, beq_iff_eq] at hletter
      rcases hletter with (halnum | rfl) | rfl
      · exact toNat_lt_of_isAlphanum halnum
      · decide
      · decide
    · decide

/-! ### Paths -/

/-- The text of a URL that consists of a path: one slash stands at its beginning, and nothing is
dropped from it. -/
structure Rooted (cs : List Char) : Prop where
  slash : cs.head? = some '/'
  single : cs.tail.head? ≠ some '/'
  kept : ∀ c ∈ cs, isDropped c = false

namespace Rooted

variable {cs : List Char}

theorem exists_cons (h : Rooted cs) : ∃ rest, cs = '/' :: rest ∧ rest.head? ≠ some '/' := by
  obtain ⟨slash, single, -⟩ := h
  cases cs with
  | nil => simp at slash
  | cons c rest => exact ⟨rest, by simpa using slash, single⟩

/-- A path has no scheme: a slash is no letter. -/
theorem splitScheme_eq (h : Rooted cs) : splitScheme cs = ([], cs) := by
  obtain ⟨rest, rfl, -⟩ := h.exists_cons
  have hcut : cut ':' ('/' :: rest) = ('/' :: (cut ':' rest).1, (cut ':' rest).2) := by
    simp [cut]
  have halpha : Char.isAlpha '/' = false := by decide
  unfold splitScheme
  rw [hcut]
  cases (cut ':' rest).2 <;> simp [halpha]

/-- A path has no host: only two slashes begin one. -/
theorem splitHost_eq (h : Rooted cs) : splitHost cs = ([], cs) := by
  obtain ⟨rest, rfl, hsingle⟩ := h.exists_cons
  cases rest with
  | nil => rfl
  | cons c more =>
      have hc : c ≠ '/' := by simpa using hsingle
      unfold splitHost
      split
      · next heq => simp_all
      · rfl

theorem append (h : Rooted cs) {more : List Char} (hmore : more.head? ≠ some '/')
    (hkept : ∀ c ∈ more, isDropped c = false) : Rooted (cs ++ more) := by
  obtain ⟨rest, rfl, hsingle⟩ := h.exists_cons
  refine ⟨rfl, ?_, fun c hc => (List.mem_append.mp hc).elim (h.kept c) (hkept c)⟩
  cases rest with
  | nil => exact hmore
  | cons c rest => exact hsingle

end Rooted

/-! ### Queries and fragments -/

/-- What may follow the path of a URL: nothing, or a query or fragment. -/
def IsTail (tail : List Char) : Prop := ∀ c ∈ tail.head?, c = '?' ∨ c = '#'

/-- What is left of the characters of a URL. -/
def kept (cs : List Char) : List Char := cs.filter fun c => !isDropped c

theorem IsTail.kept {tail : List Char} (h : IsTail tail) : IsTail (Url.kept tail) := by
  cases tail with
  | nil => exact h
  | cons c more =>
      have hc : c = '?' ∨ c = '#' := h c rfl
      have hself : Url.kept (c :: more) = c :: Url.kept more := by
        rcases hc with rfl | rfl <;> rfl
      rw [hself]
      intro d hd
      obtain rfl : c = d := by simpa using hd
      exact hc

theorem cut_append_fst {sep : Char} {before : List Char} (h : sep ∉ before) (after : List Char) :
    (cut sep (before ++ after)).1 = before ++ (cut sep after).1 := by
  induction before with
  | nil => rfl
  | cons c rest ih =>
      obtain ⟨hc, hrest⟩ := not_or.mp (List.mem_cons.not.mp h)
      simp [cut, Ne.symm hc, ih hrest]

/-- Cutting off the fragment and then the query leaves the path. -/
theorem path_append {path tail : List Char} (hquery : '?' ∉ path) (hfragment : '#' ∉ path)
    (htail : IsTail tail) : (splitAt '?' (splitAt '#' (path ++ tail)).1).1 = path := by
  have hempty : (cut '?' (cut '#' tail).1).1 = [] := by
    cases tail with
    | nil => rfl
    | cons c more => rcases htail c rfl with rfl | rfl <;> simp [cut]
  simp only [splitAt]
  rw [cut_append_fst hfragment, cut_append_fst hquery, hempty, List.append_nil]

/-! ### The beginning of a URL -/

/-- The schemes of the web. -/
def IsWebScheme (scheme : List Char) : Prop := scheme = "http".toList ∨ scheme = "https".toList

/-- **What may stand before the path of a URL**: nothing, or a scheme of the web and a plain
host. -/
inductive Front : List Char → List Char → List Char → Prop
  | none : Front [] [] []
  | site {scheme host : List Char} (hscheme : IsWebScheme scheme)
      (hhost : isPlainHost host = true) : Front (scheme ++ "://".toList ++ host) scheme host

theorem clean_append {front : List Char} (hblank : ∀ c ∈ front.head?, isFrontBlank c = false)
    (hne : front ≠ []) (hkept : ∀ c ∈ front, isDropped c = false) (rest : List Char) :
    clean (front ++ rest) = front ++ kept rest := by
  obtain ⟨c, more, rfl⟩ := List.exists_cons_of_ne_nil hne
  have hfirst : ¬ isFrontBlank c = true := by simp [hblank c rfl]
  have hall : (c :: more).filter (fun c => !isDropped c) = c :: more :=
    List.filter_eq_self.mpr fun d hd => by simp [hkept d hd]
  rw [clean, List.cons_append, List.dropWhile_cons_of_neg hfirst, ← List.cons_append,
    List.filter_append, hall, kept]

theorem splitScheme_append {scheme : List Char} (hscheme : IsWebScheme scheme) (rest : List Char) :
    splitScheme (scheme ++ ':' :: rest) = (scheme, rest) := by
  have hcolon : ':' ∉ scheme := by rcases hscheme with rfl | rfl <;> decide
  rw [splitScheme, cut_append hcolon]
  rcases hscheme with rfl | rfl <;> rfl

/-- A host ends where the path begins. -/
theorem splitHost_append {path : List Char} (hhost : ∀ c ∈ host, endsHost c = false)
    (hpath : path.head? = some '/') : splitHost ('/' :: '/' :: (host ++ path)) = (host, path) := by
  obtain ⟨rest, rfl⟩ := List.head?_eq_some_iff.mp hpath
  have hends : endsHost '/' = true := by decide
  have hall : ∀ c ∈ host, (!endsHost c) = true := fun c hc => by simp [hhost c hc]
  rw [splitHost, List.span_eq_takeWhile_dropWhile, List.takeWhile_append_of_pos hall,
    List.dropWhile_append_of_pos hall]
  simp [hends]

namespace Front

variable {front scheme path : List Char}

theorem hostFault?_eq (h : Front front scheme host) : hostFault? host = Option.none := by
  cases h with
  | none => decide
  | site _ hhost => exact hostFault?_of_isPlainHost hhost

theorem isDropped_eq_false (h : Front front scheme host) : ∀ c ∈ front, isDropped c = false := by
  intro c hc
  cases h with
  | none => cases hc
  | site hscheme hhost =>
      rcases List.mem_append.mp hc with hc | hc
      · have hall : (scheme ++ "://".toList).all (fun c => !isDropped c) = true := by
          rcases hscheme with rfl | rfl <;> decide
        simpa using List.all_eq_true.mp hall c hc
      · have hout := ne_of_mem_plainHost hhost hc
        simp [isDropped, hout '\t' (by decide) (by decide), hout '\n' (by decide) (by decide),
          hout '\r' (by decide) (by decide)]

/-- Nothing is dropped from a URL up to the end of its path. -/
theorem clean_eq (h : Front front scheme host) (hpath : Rooted path) (rest : List Char) :
    clean (front ++ (path ++ rest)) = front ++ (path ++ kept rest) := by
  obtain ⟨more, rfl, -⟩ := hpath.exists_cons
  have hne : front ++ '/' :: more ≠ [] := by simp
  -- the URL begins with a slash or with the first letter of a scheme
  have hblank : ∀ c ∈ (front ++ '/' :: more).head?, isFrontBlank c = false := by
    have hslash : isFrontBlank '/' = false := by decide
    have hletter : isFrontBlank 'h' = false := by decide
    cases h with
    | none => simpa using hslash
    | site hscheme _ => rcases hscheme with rfl | rfl <;> simpa using hletter
  have hkept : ∀ c ∈ front ++ '/' :: more, isDropped c = false := fun c hc =>
    (List.mem_append.mp hc).elim (h.isDropped_eq_false c) (hpath.kept c)
  have hclean := clean_append hblank hne hkept rest
  rwa [List.append_assoc, List.append_assoc] at hclean

/-- What stands before a path is its scheme and its host. -/
theorem split_eq (h : Front front scheme host) (hpath : Rooted path) :
    ∃ rest, splitScheme (front ++ path) = (scheme, rest) ∧ splitHost rest = (host, path) := by
  cases h with
  | none => exact ⟨path, hpath.splitScheme_eq, hpath.splitHost_eq⟩
  | site hscheme hhost =>
      refine ⟨'/' :: '/' :: (host ++ path), ?_, splitHost_append (fun c hc => ?_) hpath.slash⟩
      · simpa using splitScheme_append hscheme ('/' :: '/' :: (host ++ path))
      · -- nothing in a plain host ends it
        have hout := ne_of_mem_plainHost hhost hc
        simp [endsHost, hout '/' (by decide) (by decide),
          hout '?' (by decide) (by decide), hout '#' (by decide) (by decide)]

/-- **The path of a URL** is what stands between its beginning and its query or fragment. -/
theorem exists_split (h : Front front scheme host) (hpath : Rooted path) (hquery : '?' ∉ path)
    (hfragment : '#' ∉ path) {tail : List Char} (htail : IsTail tail) {url : String}
    (hurl : url.toList = front ++ (path ++ tail)) :
    ∃ query fragment, split url = .ok ⟨scheme, host, path, query, fragment⟩ := by
  -- no slash begins the query or the fragment, so that the path goes on being one with them
  have hrooted : Rooted (path ++ kept tail) := by
    refine hpath.append (fun hslash => ?_) fun c hc => by simpa using (List.mem_filter.mp hc).2
    rcases htail.kept '/' hslash with h | h <;> cases h
  obtain ⟨rest, hscheme, hhost⟩ := h.split_eq hrooted
  have hcut := path_append hquery hfragment htail.kept
  simp only [split, hurl, h.clean_eq hpath, hscheme, hhost, h.hostFault?_eq]
  rw [hcut]
  exact ⟨_, _, rfl⟩

end Front

end MediaDepot.Url
