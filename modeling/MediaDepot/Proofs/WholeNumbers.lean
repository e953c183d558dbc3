import Mathlib.Data.List.TakeDrop
import Mathlib.Data.List.TakeWhile
import MediaDepot.Number.Integer

/-!
# MediaDepot.Proofs.WholeNumbers

**The two ways of writing a whole number do not contradict each other.** A text may be a whole
number to settings, to documents, to both or to neither; where both take it, they take it for the
same number (`ofDocumentText_eq_of_ofSettingText?`). Settings look at the digits as they stand in
the text, whatever script they are of, and documents tidy the text up before they look at it. What
is between them is the `magnitude` of a text, the value of the digits of any script in it: settings
read it off a text without further characters (`ofSettingText?_eq_some`), and tidying changes it in
no step (`magnitude_of_tidy?`).
-/

namespace MediaDepot.Number

open Text

/-! ### Plain forms of characters -/

/-- A character is its own plain form, or it is beyond ASCII and blank or a digit. -/
theorem plainForm_cases (c : Char) :
    plainForm c = c ∧ (128 ≤ c.toNat → isBlank c = false) ∨
      128 ≤ c.toNat ∧ (isBlank c = true ∧ plainForm c = ' ' ∨
        isBlank c = false ∧ (plainForm c).isDigit = true) := by
  have hdigits : ∀ n < 10, (Char.ofNat (48 + n)).isDigit = true := by decide
  unfold plainForm
  split
  · next hascii => exact .inl ⟨rfl, fun hbeyond => absurd hbeyond (by omega)⟩
  · next hascii =>
      have hbeyond : 128 ≤ c.toNat := by omega
      split
      · next hblank => exact .inr ⟨hbeyond, .inl ⟨hblank, rfl⟩⟩
      · next hblank =>
          have hblank : isBlank c = false := Bool.eq_false_iff.mpr hblank
          split
          · -- the digits of a script follow its zero as the ASCII digits follow theirs
            next start hstart =>
              have hrange : start ≤ c.toNat ∧ c.toNat < start + 10 := by
                simpa using List.find?_some hstart
              exact .inr ⟨hbeyond, .inr ⟨hblank, hdigits (c.toNat - start) (by omega)⟩⟩
          · exact .inl ⟨rfl, fun _ => hblank⟩

theorem plainForm_of_lt {c : Char} (h : c.toNat < 128) : plainForm c = c := if_pos h

/-- Signs, points and underscores are the plain forms of themselves only. -/
theorem plainForm_eq_iff {c d : Char} (hascii : d.toNat < 128) (hdigit : d.isDigit = false)
    (hspace : d ≠ ' ') : plainForm c = d ↔ c = d := by
  constructor
  · intro h
    rcases plainForm_cases c with ⟨hself, -⟩ | ⟨-, ⟨-, hblank⟩ | ⟨-, hscript⟩⟩
    · rw [← h, hself]
    · exact absurd (h.symm.trans hblank) hspace
    · rw [h, hdigit] at hscript
      cases hscript
  · rintro rfl
    exact plainForm_of_lt hascii

theorem isNumberSpace_of_lt {c : Char} (h : c.toNat < 128) : isNumberSpace c = isWhiteSpace c := by
  have hcodes : ∀ n < 128, isNumberSpace (Char.ofNat n) = isWhiteSpace (Char.ofNat n) := by decide
  simpa using hcodes c.toNat h

theorem isNumberSpace_of_le {c : Char} (h : 128 ≤ c.toNat) : isNumberSpace c = false := by
  have hspace : c ≠ ' ' := by
    rintro rfl
    exact absurd h (by decide)
  have hrange : ¬ c.toNat ≤ 13 := by omega
  simp [isNumberSpace, hspace, hrange]

theorem isNumberSpace_of_isDigit {c : Char} (h : c.isDigit = true) : isNumberSpace c = false := by
  have hrange : 48 ≤ c.toNat := (Char.isDigit_iff_toNat.mp h).1
  have hspace : c ≠ ' ' := by
    rintro rfl
    cases h
  have hcontrol : ¬ c.toNat ≤ 13 := by omega
  simp [isNumberSpace, hspace, hcontrol]

theorem isWhiteSpace_of_le {c : Char} (h : 128 ≤ c.toNat) : isWhiteSpace c = isBlank c := by
  have hseparator : ¬ c.toNat ≤ 31 := by omega
  simp [isWhiteSpace, hseparator]

/-- Settings and documents ignore the same characters around a number. -/
theorem isNumberSpace_plainForm (c : Char) : isNumberSpace (plainForm c) = isWhiteSpace c := by
  rcases plainForm_cases c with ⟨hself, hblank⟩ | ⟨hbeyond, ⟨hblank, hspace⟩ | ⟨hblank, hdigit⟩⟩
  · rw [hself]
    by_cases hbeyond : 128 ≤ c.toNat
    · rw [isNumberSpace_of_le hbeyond, isWhiteSpace_of_le hbeyond, hblank hbeyond]
    · exact isNumberSpace_of_lt (Nat.lt_of_not_le hbeyond)
  · rw [hspace, isWhiteSpace_of_le hbeyond, hblank]
    rfl
  · rw [isNumberSpace_of_isDigit hdigit, isWhiteSpace_of_le hbeyond, hblank]

theorem stripEnds_map_plainForm (cs : List Char) :
    stripEnds isNumberSpace (cs.map plainForm) = (stripEnds isWhiteSpace cs).map plainForm := by
  have hspaces : isNumberSpace ∘ plainForm = isWhiteSpace := funext isNumberSpace_plainForm
  simp only [stripEnds, List.dropWhile_map, ← List.map_reverse, hspaces]

theorem splitSign_map_plainForm (cs : List Char) :
    splitSign (cs.map plainForm) = ((splitSign cs).1, (splitSign cs).2.map plainForm) := by
  cases cs with
  | nil => rfl
  | cons c rest =>
      by_cases hminus : c = '-'
      · subst hminus
        rfl
      by_cases hplus : c = '+'
      · subst hplus
        rfl
      · have hminus' : plainForm c ≠ '-' :=
          mt (plainForm_eq_iff (by decide) rfl (by decide)).mp hminus
        have hplus' : plainForm c ≠ '+' :=
          mt (plainForm_eq_iff (by decide) rfl (by decide)).mp hplus
        simp [splitSign, hminus, hplus, hminus', hplus']

/-! ### The digits of a text -/

/-- The value of the digits of a text, of whatever script, without underscores. -/
def magnitude (cs : List Char) : Nat := digitsValue ((cs.filter (· ≠ '_')).map plainForm)

theorem magnitude_of_isDigit {digits : List Char} (h : ∀ c ∈ digits, c.isDigit = true) :
    magnitude digits = digitsValue digits := by
  have hkept : digits.filter (· ≠ '_') = digits := by
    refine List.filter_eq_self.mpr fun c hc => ?_
    have hdigit := h c hc
    rw [decide_eq_true_eq]
    rintro rfl
    cases hdigit
  have hplain : digits.map plainForm = digits := by
    refine (List.map_congr_left fun c hc => ?_).trans (List.map_id digits)
    have hascii : c.toNat ≤ 57 := (Char.isDigit_iff_toNat.mp (h c hc)).2
    exact plainForm_of_lt (by omega)
  rw [magnitude, hkept, hplain]

/-- Leading zeros do not count, with or without underscores among them. -/
theorem magnitude_zeros_append {zeros : List Char} (h : ∀ c ∈ zeros, c = '0' ∨ c = '_')
    (cs : List Char) : magnitude (zeros ++ cs) = magnitude cs := by
  induction zeros with
  | nil => rfl
  | cons c zeros ih =>
      obtain ⟨hc, hzeros⟩ := List.forall_mem_cons.mp h
      rw [← ih hzeros]
      rcases hc with rfl | rfl
      · rfl
      · rfl

theorem magnitude_filter (cs : List Char) : magnitude (cs.filter (· != '_')) = magnitude cs := by
  have hkept : (cs.filter (· != '_')).filter (· ≠ '_') = cs.filter (· ≠ '_') := by
    rw [List.filter_filter]
    exact List.filter_congr fun c _ => by simp
  rw [magnitude, hkept, magnitude]

/-! ### Numbers in settings -/

theorem of_grouped? {cs digits : List Char} (h : grouped? cs = some digits) :
    (∀ c ∈ cs, c = '_' ∨ c.isDigit = true) ∧ digits = cs.filter (· ≠ '_') := by
  unfold grouped? at h
  simp only [Option.ite_none_right_eq_some, List.all_eq_true, Bool.and_eq_true] at h
  obtain ⟨hgroups, hdigits⟩ := h
  have hdigits : cs.filter (· ≠ '_') = digits :=
    (flatten_pieces '_' cs).symm.trans (Option.some.inj hdigits)
  refine ⟨fun c hc => ?_, hdigits.symm⟩
  by_cases hunderscore : c = '_'
  · exact .inl hunderscore
  · have hmem : c ∈ (pieces '_' cs).flatten := by
      rw [flatten_pieces]
      exact List.mem_filter.mpr ⟨hc, by simpa using hunderscore⟩
    obtain ⟨group, hgroup, hin⟩ := List.mem_flatten.mp hmem
    exact .inr ((hgroups group hgroup).2 c hin)

/-- **What a number in a setting looks like**: a sign, and digits of any script and underscores. -/
theorem ofSettingText?_eq_some {s : String} {n : Int} (h : ofSettingText? s = some n) :
    ∃ negative body, splitSign (stripEnds isWhiteSpace s.toList) = (negative, body) ∧
      (∀ c ∈ body, c = '_' ∨ (plainForm c).isDigit = true) ∧
        n = signed negative (magnitude body) := by
  rcases hsplit : splitSign (stripEnds isWhiteSpace s.toList) with ⟨negative, body⟩
  refine ⟨negative, body, rfl, ?_⟩
  unfold ofSettingText? at h
  rw [stripEnds_map_plainForm, splitSign_map_plainForm, hsplit] at h
  simp only [Option.bind_eq_bind, Option.bind_eq_some_iff, Option.ite_none_right_eq_some] at h
  obtain ⟨digits, hdigits, -, hn⟩ := h
  obtain ⟨hbody, rfl⟩ := of_grouped? hdigits
  have hunderscore (c : Char) : plainForm c = '_' ↔ c = '_' :=
    plainForm_eq_iff (by decide) rfl (by decide)
  constructor
  · intro c hc
    have hplain := hbody (plainForm c) (List.mem_map_of_mem hc)
    rwa [hunderscore] at hplain
  · have hsame : (body.map plainForm).filter (· ≠ '_') = (body.filter (· ≠ '_')).map plainForm := by
      rw [List.filter_map]
      congr 2
      funext c
      simp [hunderscore]
    rw [← Option.some.inj hn, hsame]
    rfl

/-! ### Numbers in documents -/

/-- The characters, with a minus sign before them or without one. -/
def withSign : Bool → List Char → List Char
  | true, cs => '-' :: cs
  | false, cs => cs

/-- A number in plain form is a minus sign, if it is negative, and digits. -/
theorem ofPlain_eq_ok {cs : List Char} {m : Int} (h : ofPlain cs = .ok m) :
    ∃ negative digits, cs = withSign negative digits ∧ (∀ c ∈ digits, c.isDigit = true) ∧
      m = signed negative (magnitude digits) := by
  unfold ofPlain at h
  split at h
  next negative digits hsign =>
  have hcs : cs = withSign negative digits := by
    split at hsign
    · obtain ⟨rfl, rfl⟩ := Prod.mk.inj hsign
      rfl
    · obtain ⟨rfl, rfl⟩ := Prod.mk.inj hsign
      rfl
  rw [List.span_eq_takeWhile_dropWhile] at h
  dsimp only at h
  split at h
  · cases h
  split at h
  · cases h
  split at h
  · cases h
  next hrest =>
  have hall : ∀ c ∈ digits, c.isDigit = true := by
    rw [← List.dropWhile_eq_nil_iff]
    simpa using hrest
  have hwhole : digits.takeWhile Char.isDigit = digits := List.takeWhile_eq_self_iff.mpr hall
  refine ⟨negative, digits, hcs, hall, ?_⟩
  rw [hwhole] at h
  rw [magnitude_of_isDigit hall]
  exact (Except.ok.inj h).symm

theorem withSign_inj {negative other : Bool} {cs digits : List Char} (hminus : '-' ∉ cs)
    (hdigits : ∀ c ∈ digits, c.isDigit = true) (h : withSign negative cs = withSign other digits) :
    negative = other ∧ cs = digits := by
  -- a sign on one side only would stand among the characters of the other
  cases negative with
  | true =>
      cases other with
      | true => exact ⟨rfl, List.tail_eq_of_cons_eq h⟩
      | false =>
          have hin : '-' ∈ digits := by
            rw [← show '-' :: cs = digits from h]
            exact List.mem_cons_self
          exact absurd (hdigits '-' hin) (by decide)
  | false =>
      cases other with
      | true =>
          have hin : '-' ∈ cs := by
            rw [show cs = '-' :: digits from h]
            exact List.mem_cons_self
          exact absurd hin hminus
      | false => exact ⟨rfl, h⟩

theorem splitSign_withSign {digits : List Char} (h : ∀ c ∈ digits, c.isDigit = true)
    (negative : Bool) : splitSign (withSign negative digits) = (negative, digits) := by
  cases negative with
  | true => rfl
  | false =>
      cases digits with
      | nil => rfl
      | cons c digits =>
          have hdigit : c.isDigit = true := h c List.mem_cons_self
          unfold withSign splitSign
          split
          · next hcs =>
              obtain ⟨rfl, -⟩ := List.cons.inj hcs
              cases hdigit
          · next hcs =>
              obtain ⟨rfl, -⟩ := List.cons.inj hcs
              cases hdigit
          · rfl

theorem stripEnds_withSign {digits : List Char} (h : ∀ c ∈ digits, c.isDigit = true)
    (negative : Bool) :
    stripEnds isWhiteSpace (withSign negative digits) = withSign negative digits := by
  refine stripEnds_eq_self fun c hc => ?_
  have hdigit (c : Char) (hc : c ∈ digits) : isWhiteSpace c = false := by
    have hascii : c.toNat ≤ 57 := (Char.isDigit_iff_toNat.mp (h c hc)).2
    rw [← isNumberSpace_of_lt (by omega), isNumberSpace_of_isDigit (h c hc)]
  cases negative with
  | false => exact hdigit c hc
  | true =>
      rcases List.mem_cons.mp hc with rfl | hc
      · decide
      · exact hdigit c hc

theorem span_zeros (cs : List Char) :
    ∃ zeros others, cs.span (fun c => c == '0' || c == '_') = (zeros, others) ∧
      cs = zeros ++ others ∧ ∀ c ∈ zeros, c = '0' ∨ c = '_' := by
  refine ⟨_, _, List.span_eq_takeWhile_dropWhile .., List.takeWhile_append_dropWhile.symm,
    fun c hc => ?_⟩
  simpa using List.all_eq_true.mp List.all_takeWhile c hc

theorem magnitude_of_dropLeadingZeros? {cs rest : List Char} (hpoint : '.' ∉ cs)
    (h : dropLeadingZeros? cs = some rest) :
    magnitude rest = magnitude cs ∧ ∀ c ∈ rest, c ∈ cs := by
  unfold dropLeadingZeros? at h
  split at h
  · next tail =>
      obtain ⟨zeros, others, hspan, rfl, hzeros⟩ := span_zeros tail
      rw [hspan] at h
      dsimp only at h
      have hall : ∀ c ∈ '0' :: zeros, c = '0' ∨ c = '_' :=
        List.forall_mem_cons.mpr ⟨.inl rfl, hzeros⟩
      have hvalue : magnitude ('0' :: (zeros ++ others)) = magnitude others :=
        magnitude_zeros_append hall others
      split at h
      · -- nothing follows, so one of the zeros stays
        have hlast : zeros.getLastD '0' ∈ '0' :: zeros := List.getLastD_mem_cons
        obtain rfl := Option.some.inj h
        rw [List.append_nil] at hvalue ⊢
        refine ⟨?_, fun c hc => List.mem_singleton.mp hc ▸ hlast⟩
        exact (magnitude_zeros_append (fun c hc => List.mem_singleton.mp hc ▸ hall _ hlast)
          []).trans hvalue.symm
      · next c more =>
          rw [if_neg (by rintro rfl; simp at hpoint)] at h
          obtain ⟨-, hrest⟩ := Option.ite_none_right_eq_some.mp h
          obtain rfl := Option.some.inj hrest
          exact ⟨hvalue.symm, fun d hd => List.mem_cons_of_mem _ (List.mem_append_right _ hd)⟩
  · next c tail _ =>
      obtain ⟨-, hrest⟩ := Option.ite_none_right_eq_some.mp h
      obtain rfl := Option.some.inj hrest
      exact ⟨rfl, fun c hc => hc⟩
  · cases h

theorem dropZeroFraction_of_not_mem {cs : List Char} (h : '.' ∉ cs) : dropZeroFraction cs = cs := by
  rw [dropZeroFraction, cut_of_not_mem h]

theorem magnitude_dropUnderscores (cs : List Char) :
    magnitude (dropUnderscores cs) = magnitude cs ∧ ∀ c ∈ dropUnderscores cs, c ∈ cs := by
  unfold dropUnderscores
  split
  · exact ⟨rfl, fun c hc => hc⟩
  · refine ⟨?_, fun c hc => (List.mem_filter.mp hc).1⟩
    exact magnitude_filter cs

/-- **Tidying up** a number without a point changes no digit that counts. -/
theorem magnitude_of_tidy? {cs tidied : List Char} (hpoint : '.' ∉ cs)
    (h : tidy? cs = some tidied) : magnitude tidied = magnitude cs ∧ ∀ c ∈ tidied, c ∈ cs := by
  obtain ⟨rest, hrest, rfl⟩ := Option.map_eq_some_iff.mp h
  obtain ⟨hvalue, hmem⟩ := magnitude_of_dropLeadingZeros? hpoint hrest
  rw [dropZeroFraction_of_not_mem fun hin => hpoint (hmem _ hin)]
  obtain ⟨hvalue', hmem'⟩ := magnitude_dropUnderscores rest
  exact ⟨hvalue'.trans hvalue, fun c hc => hmem c (hmem' c hc)⟩

theorem plain?_eq_some {cs plain : List Char} (h : plain? cs = some plain) :
    ∃ negative body tidied, splitSign (stripEnds isWhiteSpace cs) = (negative, body) ∧
      tidy? body = some tidied ∧ plain = withSign negative tidied := by
  unfold plain? at h
  split at h
  · next rest hcs =>
      obtain ⟨tidied, htidied, rfl⟩ := Option.map_eq_some_iff.mp h
      exact ⟨true, rest, tidied, by rw [hcs]; rfl, htidied, rfl⟩
  · cases h
  · next rest _ hcs => exact ⟨false, rest, plain, by rw [hcs]; rfl, h, rfl⟩
  · next hminus _ hplus =>
      refine ⟨false, _, plain, ?_, h, rfl⟩
      unfold splitSign
      split
      · next rest hcs => exact absurd hcs (hminus rest)
      · next rest hcs => exact absurd hcs (hplus rest)
      · rfl

/-- **What a number in a document is worth** if it has neither a point nor a sign after the first:
the same as its digits. -/
theorem ofDocumentText_eq_ok {s : String} {m : Int} (h : ofDocumentText s = .ok m) :
    ∃ negative body, splitSign (stripEnds isWhiteSpace s.toList) = (negative, body) ∧
      ('.' ∉ body → '-' ∉ body → m = signed negative (magnitude body)) := by
  unfold ofDocumentText at h
  -- what is in plain form already is taken as it is, all else is tidied up first
  split at h
  · split at h
    · next n hplain =>
        obtain ⟨plain, hs, hn⟩ := Option.map_eq_some_iff.mp hplain
        obtain ⟨negative, body, tidied, hsplit, htidied, rfl⟩ := plain?_eq_some hs
        refine ⟨negative, body, hsplit, fun hpoint hminus => ?_⟩
        obtain ⟨hvalue, hmem⟩ := magnitude_of_tidy? hpoint htidied
        obtain ⟨negative', digits, hsigned, hdigits, rfl⟩ := ofPlain_eq_ok hn
        obtain ⟨rfl, rfl⟩ := withSign_inj (fun hin => hminus (hmem _ hin)) hdigits hsigned
        rw [← hvalue]
        exact (Except.ok.inj h).symm
    · cases h
  · obtain ⟨negative, digits, hs, hdigits, rfl⟩ := ofPlain_eq_ok h
    refine ⟨negative, digits, ?_, fun _ _ => rfl⟩
    rw [hs, stripEnds_withSign hdigits, splitSign_withSign hdigits]

/-- **Where settings and documents both take a text as a whole number**, they take it for the
same. -/
theorem ofDocumentText_eq_of_ofSettingText? {s : String} {n m : Int}
    (hsetting : ofSettingText? s = some n) (hdocument : ofDocumentText s = .ok m) : m = n := by
  obtain ⟨negative, body, hsplit, hdigits, rfl⟩ := ofSettingText?_eq_some hsetting
  obtain ⟨negative', body', hsplit', hvalue⟩ := ofDocumentText_eq_ok hdocument
  rw [hsplit] at hsplit'
  cases hsplit'
  refine hvalue (fun hpoint => ?_) fun hminus => ?_
  · rcases hdigits '.' hpoint with hc | hc <;> cases hc
  · rcases hdigits '-' hminus with hc | hc <;> cases hc

end MediaDepot.Number
