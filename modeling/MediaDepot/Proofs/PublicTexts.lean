import MediaDepot.Proofs.Identifiers

/-!
# MediaDepot.Proofs.PublicTexts

**Which texts name a file, and when two of them name the same one.** Reading takes eleven letters of
the alphabet and nothing else. Eleven letters hold 66 bits and an identifier has 64 of them: the two
lowest bits of the last letter say nothing, so that four last letters are read alike.

* `Uid.Reads` — what the letters of a text say, digit by digit; `exists_reads` finds the digits of
  every text that names a file, and `Reads.parse_eq` says which file that is.
* `Uid.parse_eq_iff_twins` — two texts name the same file just when they agree up to the two lowest
  bits of their last letters.
* `Uid.text_parse_eq_iff` — a text that names a file is the public text of that file just when these
  two bits are zero.

`Uid.texts_and_keys` says what the two forms of an identifier look like and that nothing is lost in
them.
-/

namespace MediaDepot

namespace Uid

open Number

/-! ### Forms of texts -/

/-- May the character stand in a public text? -/
def isTextLetter (c : Char) : Bool :=
  ('A' ≤ c && c ≤ 'Z') || ('a' ≤ c && c ≤ 'z') || ('0' ≤ c && c ≤ '9') || c == '_' || c == '-'

/-- May the character stand in a storage key? -/
def isKeyLetter (c : Char) : Bool := ('a' ≤ c && c ≤ 'z') || ('2' ≤ c && c ≤ '7')

/-- The text has the form of the public text of a file. -/
def IsText (text : String) : Prop := text.length = 11 ∧ text.toList.all isTextLetter = true

instance (text : String) : Decidable (IsText text) := inferInstanceAs (Decidable (_ ∧ _))

/-- The text has the form of a storage key. -/
def IsKey (text : String) : Prop := text.length = 13 ∧ text.toList.all isKeyLetter = true

theorem isTextLetter_of_mem {c : Char} (h : c ∈ textAlphabet) : isTextLetter c = true := by
  have hall : textAlphabet.all isTextLetter = true := by decide
  exact List.all_eq_true.mp hall c h

theorem isKeyLetter_of_mem {c : Char} (h : c ∈ keyAlphabet) : isKeyLetter c = true := by
  have hall : keyAlphabet.all isKeyLetter = true := by decide
  exact List.all_eq_true.mp hall c h

theorem ne_zero_of_isZero {u : Uid} (h : u.isZero = false) : u ≠ zero := by
  rintro rfl
  cases h

theorem isText_text {u : Uid} (h : u.isZero = false) : IsText u.text := by
  refine ⟨?_, List.all_eq_true.mpr fun c hc => isTextLetter_of_mem (mem_text hc)⟩
  rw [← String.length_toList, toList_text h, length_letters]

theorem isKey_key (u : Uid) : IsKey u.key := by
  refine ⟨?_, List.all_eq_true.mpr fun c hc => isKeyLetter_of_mem (mem_key hc)⟩
  rw [← String.length_toList, toList_key, length_letters]

/-! ### What the letters of a text say -/

/-- The letter for a digit. -/
def letterAt (d : Nat) : Char := textAlphabet[d]?.getD 'A'

theorem letterValue?_letterAt {d : Nat} (h : d < 64) : letterValue? (letterAt d) = some d :=
  findIdx?_letter nodup_textAlphabet (by simpa using h)

/-- A letter that is read is the one for its digit. -/
theorem letterAt_of_letterValue? {c : Char} {d : Nat} (h : letterValue? c = some d) :
    letterAt d = c ∧ d < 64 := by
  obtain ⟨hlt, hletter, -⟩ := List.findIdx?_eq_some_iff_getElem.mp h
  refine ⟨?_, by simpa using hlt⟩
  rw [letterAt, List.getElem?_eq_getElem hlt, Option.getD_some]
  simpa using hletter

/-- Digits are read from their letters. -/
theorem mapM_letterValue?_letters {digits : List Nat} (h : ∀ d ∈ digits, d < 64) :
    (digits.map letterAt).mapM letterValue? = some digits :=
  mapM_findIdx?_map nodup_textAlphabet (by simpa using h)

/-- **What a text says**: ten digits and a last one, each by its letter. -/
structure Reads (text : String) (front : List Nat) (last : Nat) : Prop where
  letters : text.toList = (front ++ [last]).map letterAt
  front_lt : ∀ d ∈ front, d < 64
  last_lt : last < 64
  length_front : front.length = 10

/-- Letters that are read are those for their digits. -/
theorem eq_map_letterAt {cs : List Char} {digits : List Nat}
    (h : cs.mapM letterValue? = some digits) :
    cs = digits.map letterAt ∧ ∀ d ∈ digits, d < 64 := by
  induction cs generalizing digits with
  | nil =>
      obtain rfl : [] = digits := Option.some.inj h
      simp
  | cons c rest ih =>
      rw [List.mapM_cons] at h
      obtain ⟨d, hd, h⟩ := Option.bind_eq_some_iff.mp h
      obtain ⟨more, hmore, h⟩ := Option.bind_eq_some_iff.mp h
      obtain rfl : d :: more = digits := Option.some.inj h
      obtain ⟨hletter, hlt⟩ := letterAt_of_letterValue? hd
      obtain ⟨hrest, hall⟩ := ih hmore
      refine ⟨by rw [List.map_cons, hletter, ← hrest], fun x hx => ?_⟩
      rcases List.mem_cons.mp hx with rfl | hx
      · exact hlt
      · exact hall x hx

/-- **Every text that names a file** is made of eleven letters of the alphabet. -/
theorem exists_reads {text : String} (h : parse text ≠ zero) :
    ∃ front last, Reads text front last := by
  unfold parse at h
  split at h
  · next digits hdigits =>
      obtain ⟨hletters, hlt⟩ := eq_map_letterAt hdigits
      split at h
      · next hlength =>
          have hne : digits ≠ [] := by
            rintro rfl
            cases hlength
          have hsplit : digits.dropLast ++ [digits.getLast hne] = digits :=
            List.dropLast_append_getLast hne
          refine ⟨digits.dropLast, digits.getLast hne, ?_, fun d hd => ?_, ?_, ?_⟩
          · rw [hsplit, hletters]
          · exact hlt d ((List.dropLast_sublist digits).subset hd)
          · exact hlt _ (List.getLast_mem hne)
          · rw [List.length_dropLast, hlength]
      · exact absurd rfl h
  · exact absurd rfl h

/-- The digit of the last letter. -/
def lastDigit? (text : String) : Option Nat := text.toList.getLast?.bind letterValue?

/-- The texts agree up to the two lowest bits of their last letters. -/
def Twins (text other : String) : Prop :=
  text.toList.dropLast = other.toList.dropLast ∧
    (lastDigit? text).map (· / 4) = (lastDigit? other).map (· / 4)

instance (text other : String) : Decidable (Twins text other) := inferInstanceAs (Decidable (_ ∧ _))

namespace Reads

variable {text other : String} {front front' : List Nat} {last last' : Nat}

theorem digits_lt (h : Reads text front last) : ∀ d ∈ front ++ [last], d < 64 := fun d hd => by
  rcases List.mem_append.mp hd with hd | hd
  · exact h.front_lt d hd
  · exact List.mem_singleton.mp hd ▸ h.last_lt

theorem isText (h : Reads text front last) : IsText text := by
  refine ⟨?_, List.all_eq_true.mpr fun c hc => ?_⟩
  · rw [← String.length_toList, h.letters]
    simp [h.length_front]
  · rw [h.letters] at hc
    obtain ⟨d, hd, rfl⟩ := List.mem_map.mp hc
    have hlt : d < textAlphabet.length := by simpa using h.digits_lt d hd
    rw [letterAt, List.getElem?_eq_getElem hlt, Option.getD_some]
    exact isTextLetter_of_mem (List.getElem_mem hlt)

theorem mapM_letterValue? (h : Reads text front last) :
    text.toList.mapM letterValue? = some (front ++ [last]) := by
  rw [h.letters, mapM_letterValue?_letters h.digits_lt]

/-- Different digits are spelled by different texts. -/
theorem ext_iff (h : Reads text front last) (h' : Reads other front' last') :
    text = other ↔ front = front' ∧ last = last' := by
  constructor
  · rintro rfl
    have hsame := h.mapM_letterValue?.symm.trans h'.mapM_letterValue?
    obtain ⟨hfront, hlast⟩ := List.append_inj' (Option.some.inj hsame) rfl
    exact ⟨hfront, List.singleton_injective hlast⟩
  · rintro ⟨rfl, rfl⟩
    exact String.toList_injective (h.letters.trans h'.letters.symm)

/-- **The file that a text names**, by its digits. -/
theorem parse_eq (h : Reads text front last) :
    parse text = ofSpelled (last / 4 + 16 * ofLowDigits 64 front.reverse) := by
  have hlength : (front ++ [last]).length = 11 := by simp [h.length_front]
  have hvalue : ofLowDigits 64 (front ++ [last]).reverse / 4 =
      last / 4 + 16 * ofLowDigits 64 front.reverse := by
    rw [List.reverse_append, List.reverse_singleton, List.singleton_append, ofLowDigits]
    omega
  simp only [parse, h.mapM_letterValue?, hlength, ↓reduceIte, hvalue]

/-- The number that the file spells. -/
theorem spelled_parse (h : Reads text front last) :
    (parse text).spelled = last / 4 + 16 * ofLowDigits 64 front.reverse := by
  have hfront : ofLowDigits 64 front.reverse < 64 ^ 10 := by
    have := ofLowDigits_lt fun d hd => h.front_lt d (List.mem_reverse.mp hd)
    rwa [List.length_reverse, h.length_front] at this
  have hlast := h.last_lt
  rw [h.parse_eq]
  exact spelled_ofSpelled (by omega)

theorem lowDigits_front (h : Reads text front last) :
    lowDigits 64 10 (ofLowDigits 64 front.reverse) = front.reverse := by
  have := lowDigits_ofLowDigits fun d hd => h.front_lt d (List.mem_reverse.mp hd)
  rwa [List.length_reverse, h.length_front] at this

/-- The public text of the file that a text names has the same digits, with two bits cleared. -/
theorem text_parse (h : Reads text front last) (hzero : (parse text).isZero = false) :
    Reads (parse text).text front (4 * (last / 4)) := by
  have hlast := h.last_lt
  have hcleared : 4 * (last / 4) < 64 := by omega
  -- writing shifts the number by the two bits that reading has dropped
  have hdigits : lowDigits 64 11 (4 * (parse text).spelled) = 4 * (last / 4) :: front.reverse := by
    have hlow : 4 * (parse text).spelled =
        4 * (last / 4) + 64 * ofLowDigits 64 front.reverse := by
      rw [h.spelled_parse]
      omega
    rw [hlow, lowDigits, Nat.add_mul_mod_self_left, Nat.add_mul_div_left _ _ (by decide),
      Nat.mod_eq_of_lt hcleared, Nat.div_eq_of_lt hcleared, Nat.zero_add, h.lowDigits_front]
  refine ⟨?_, h.front_lt, hcleared, h.length_front⟩
  rw [toList_text hzero, Uid.letters, length_textAlphabet, hdigits, List.reverse_cons,
    List.reverse_reverse]
  rfl

theorem lastDigit?_eq (h : Reads text front last) : lastDigit? text = some last := by
  rw [lastDigit?, h.letters, List.map_append, List.map_singleton, List.getLast?_concat,
    Option.bind_some, letterValue?_letterAt h.last_lt]

theorem dropLast_eq (h : Reads text front last) :
    text.toList.dropLast = front.map letterAt := by
  rw [h.letters, List.map_append, List.map_singleton, List.dropLast_concat]

theorem twins_iff (h : Reads text front last) (h' : Reads other front' last') :
    Twins text other ↔ front = front' ∧ last / 4 = last' / 4 := by
  rw [Twins, h.lastDigit?_eq, h'.lastDigit?_eq, h.dropLast_eq, h'.dropLast_eq, Option.map_some,
    Option.map_some, Option.some_inj]
  refine and_congr_left fun _ => ⟨fun hletters => ?_, fun hfront => by rw [hfront]⟩
  have hread := congrArg (·.mapM letterValue?) hletters
  rw [mapM_letterValue?_letters h.front_lt, mapM_letterValue?_letters h'.front_lt] at hread
  exact Option.some.inj hread

end Reads

/-- **When two texts name the same file**: when they agree up to two bits. -/
theorem parse_eq_iff_twins {text other : String} (h : parse text ≠ zero) (h' : parse other ≠ zero) :
    parse text = parse other ↔ Twins text other := by
  obtain ⟨front, last, hreads⟩ := exists_reads h
  obtain ⟨front', last', hreads'⟩ := exists_reads h'
  have hlast := hreads.last_lt
  have hlast' := hreads'.last_lt
  rw [hreads.twins_iff hreads', ← spelled_injective.eq_iff, hreads.spelled_parse,
    hreads'.spelled_parse]
  constructor
  · intro hsame
    -- the last letter gives the four lowest bits of the number and nothing else
    have hfront : ofLowDigits 64 front.reverse = ofLowDigits 64 front'.reverse := by omega
    have hdigits := congrArg (lowDigits 64 10) hfront
    rw [hreads.lowDigits_front, hreads'.lowDigits_front] at hdigits
    exact ⟨List.reverse_injective hdigits, by omega⟩
  · rintro ⟨rfl, hbits⟩
    rw [hbits]

/-- **When a text is the public text of the file that it names**: when the two bits are zero. -/
theorem text_parse_eq_iff {text : String} (h : (parse text).isZero = false) :
    (parse text).text = text ↔ (lastDigit? text).map (· % 4) = some 0 := by
  obtain ⟨front, last, hreads⟩ := exists_reads (ne_zero_of_isZero h)
  rw [(hreads.text_parse h).ext_iff hreads, hreads.lastDigit?_eq, Option.map_some, Option.some_inj,
    eq_self_iff_true, true_and]
  omega

/-! ### Texts and keys -/

/-- **The two forms of an identifier**: the public text is eleven letters, or empty for zero, and is
read back; the key is thirteen letters; neither form is shared by two identifiers. Whatever does not
have the form of a public text is read as zero. -/
theorem texts_and_keys (u v : Uid) (text : String) :
    parse u.text = u ∧ zero.text = "" ∧ (u ≠ zero → IsText u.text) ∧ IsKey u.key ∧
      (u.text = v.text → u = v) ∧ (u.key = v.key → u = v) ∧
        (¬ IsText text → parse text = zero) := by
  refine ⟨parse_text u, rfl, fun hzero => isText_text ?_, isKey_key u, fun h => text_injective h,
    fun h => key_injective h, fun htext => ?_⟩
  · exact Bool.eq_false_iff.mpr fun h => hzero (zero_of_isZero h)
  · by_contra hparse
    obtain ⟨front, last, hreads⟩ := exists_reads hparse
    exact htext hreads.isText

/-- The forms of five, and a text with a letter that does not belong to the alphabet. -/
theorem texts_and_keys_five :
    (⟨5⟩ : Uid) ≠ zero ∧ IsText (text ⟨5⟩) ∧ IsKey (key ⟨5⟩) ∧ parse (text ⟨5⟩) = ⟨5⟩ ∧
      ¬ IsText "AAAAAAAA+AA" ∧ parse "AAAAAAAA+AA" = zero := by
  have hzero : (⟨5⟩ : Uid) ≠ zero := by decide
  have hmalformed : ¬ IsText "AAAAAAAA+AA" := by decide
  obtain ⟨hread, -, htext, hkey, -, -, hrefused⟩ := texts_and_keys ⟨5⟩ ⟨6⟩ "AAAAAAAA+AA"
  exact ⟨hzero, htext hzero, hkey, hread, hmalformed, hrefused hmalformed⟩

end Uid

end MediaDepot
