import Mathlib.Data.List.Nodup
import MediaDepot.Number.Positional.Lemmas
import MediaDepot.Proofs.FileNames

/-!
# MediaDepot.Proofs.Identifiers

**The two texts of an identifier lose nothing.** Both are digits of one number, spelled in an
alphabet, so everything rests on two facts: so many digits give back a number below the power of the
base (`ofLowDigits_lowDigits`), and a letter of an alphabet without repetition gives back its digit
(`findIdx?_letter`).

* `Uid.parse_text` — the public text is read back.
* `Uid.key_injective` — two identifiers never share a storage key.
* `Uid.mem_text` — the letters of a public text; none of them means anything in a URL.
* `LocalHandler.isPlain_key` — a storage key is a plain file name.
-/

namespace MediaDepot

namespace Uid

open Number

/-! ### The number that both texts spell -/

theorem mem_octets_lt {u : Uid} {d : Nat} (h : d ∈ u.octets) : d < 256 :=
  lt_of_mem_lowDigits (by decide) h

@[simp] theorem length_octets (u : Uid) : u.octets.length = 8 := length_lowDigits ..

theorem ofLowDigits_octets (u : Uid) : ofLowDigits 256 u.octets = u.value.toNat := by
  rw [octets, ofLowDigits_lowDigits]
  exact Nat.mod_eq_of_lt u.value.toNat_lt

theorem spelled_lt (u : Uid) : u.spelled < 2 ^ 64 := by
  have hlt : ofLowDigits 256 u.octets.reverse < 256 ^ u.octets.reverse.length :=
    ofLowDigits_lt fun d hd => mem_octets_lt (List.mem_reverse.mp hd)
  simpa [spelled] using hlt

/-- Turning the bytes around twice gives the identifier back. -/
theorem ofSpelled_spelled (u : Uid) : ofSpelled u.spelled = u := by
  have hdigits : lowDigits 256 8 u.spelled = u.octets.reverse := by
    have hdigits : lowDigits 256 u.octets.reverse.length (ofLowDigits 256 u.octets.reverse) =
        u.octets.reverse :=
      lowDigits_ofLowDigits fun d hd => mem_octets_lt (List.mem_reverse.mp hd)
    simpa [spelled] using hdigits
  rw [ofSpelled, hdigits, List.reverse_reverse, ofLowDigits_octets, UInt64.ofNat_toNat]

/-- Every number that fits is spelled by an identifier. -/
theorem spelled_ofSpelled {n : Nat} (h : n < 2 ^ 64) : (ofSpelled n).spelled = n := by
  let digits := lowDigits 256 8 n
  have hdigits : ∀ d ∈ digits.reverse, d < 256 := fun d hd =>
    lt_of_mem_lowDigits (by decide) (List.mem_reverse.mp hd)
  have hlength : digits.reverse.length = 8 := by simp [digits]
  have hvalue : (ofSpelled n).value.toNat = ofLowDigits 256 digits.reverse := by
    have hlt : ofLowDigits 256 digits.reverse < 2 ^ 64 := by
      have := ofLowDigits_lt hdigits
      rwa [hlength] at this
    exact UInt64.toNat_ofNat_of_lt' hlt
  have hoctets : (ofSpelled n).octets = digits.reverse := by
    have := lowDigits_ofLowDigits hdigits
    rwa [hlength, ← hvalue] at this
  rw [spelled, hoctets, List.reverse_reverse, ofLowDigits_lowDigits]
  exact Nat.mod_eq_of_lt h

theorem spelled_injective : Function.Injective spelled :=
  Function.LeftInverse.injective ofSpelled_spelled

/-! ### Letters and digits -/

variable {alphabet : List Char}

/-- A letter of an alphabet without repetition stands at the place of its digit. -/
theorem findIdx?_letter (nodup : alphabet.Nodup) {d : Nat} (h : d < alphabet.length) :
    alphabet.findIdx? (· == alphabet[d]?.getD 'A') = some d := by
  rw [List.getElem?_eq_getElem h, Option.getD_some, List.findIdx?_eq_some_iff_getElem]
  refine ⟨h, by simp, fun j hj => ?_⟩
  have hne : j ≠ d := Nat.ne_of_lt hj
  simpa [List.Nodup.getElem_inj_iff nodup] using hne

/-- Digits are read back from their letters. -/
theorem mapM_findIdx?_map (nodup : alphabet.Nodup) {digits : List Nat}
    (h : ∀ d ∈ digits, d < alphabet.length) :
    (digits.map fun d => alphabet[d]?.getD 'A').mapM (fun c => alphabet.findIdx? (· == c)) =
      some digits := by
  induction digits with
  | nil => rfl
  | cons d rest ih =>
      rw [List.map_cons, List.mapM_cons, findIdx?_letter nodup (h d (by simp)),
        ih fun x hx => h x (by simp [hx])]
      rfl

/-- The digits of a number are read back from its letters. -/
theorem mapM_findIdx?_letters (nodup : alphabet.Nodup) (pos : 0 < alphabet.length) (count n : Nat) :
    (letters alphabet count n).mapM (fun c => alphabet.findIdx? (· == c)) =
      some (lowDigits alphabet.length count n).reverse :=
  mapM_findIdx?_map nodup fun _ hd => lt_of_mem_lowDigits pos (List.mem_reverse.mp hd)

theorem mem_of_mem_letters (pos : 0 < alphabet.length) {count n : Nat} {c : Char}
    (h : c ∈ letters alphabet count n) : c ∈ alphabet := by
  obtain ⟨d, hd, rfl⟩ := List.mem_map.mp h
  have hlt : d < alphabet.length := lt_of_mem_lowDigits pos (List.mem_reverse.mp hd)
  rw [List.getElem?_eq_getElem hlt, Option.getD_some]
  exact List.getElem_mem hlt

@[simp] theorem length_letters (count n : Nat) : (letters alphabet count n).length = count := by
  simp [letters]

/-- The letters determine a number that needs no more digits. -/
theorem letters_inj (nodup : alphabet.Nodup) (pos : 0 < alphabet.length) {count m n : Nat}
    (hm : m < alphabet.length ^ count) (hn : n < alphabet.length ^ count)
    (h : letters alphabet count m = letters alphabet count n) : m = n := by
  have hdigits : lowDigits alphabet.length count m = lowDigits alphabet.length count n := by
    have := congrArg (List.mapM fun c => alphabet.findIdx? (· == c)) h
    rw [mapM_findIdx?_letters nodup pos, mapM_findIdx?_letters nodup pos] at this
    exact List.reverse_injective (Option.some.inj this)
  have := congrArg (ofLowDigits alphabet.length) hdigits
  rwa [ofLowDigits_lowDigits, ofLowDigits_lowDigits, Nat.mod_eq_of_lt hm,
    Nat.mod_eq_of_lt hn] at this

theorem nodup_textAlphabet : textAlphabet.Nodup := by decide
theorem nodup_keyAlphabet : keyAlphabet.Nodup := by decide
@[simp] theorem length_textAlphabet : textAlphabet.length = 64 := by decide
@[simp] theorem length_keyAlphabet : keyAlphabet.length = 32 := by decide

/-! ### The public text -/

theorem zero_of_isZero {u : Uid} (h : u.isZero = true) : u = zero := by
  obtain ⟨value⟩ := u
  simpa [isZero, zero] using h

theorem isZero_eq_false {u : Uid} (h : u ≠ zero) : u.isZero = false :=
  Bool.eq_false_iff.mpr fun hzero => h (zero_of_isZero hzero)

theorem toList_text {u : Uid} (h : u.isZero = false) :
    u.text.toList = letters textAlphabet 11 (4 * u.spelled) := by
  simp [text, h]

/-- **The public text is read back**, also the empty one of zero. -/
theorem parse_text (u : Uid) : parse u.text = u := by
  cases hz : u.isZero with
  | true => rw [zero_of_isZero hz]; decide
  | false =>
      -- eleven letters hold 66 bits: the 64 of the identifier and two of padding
      have hread : u.text.toList.mapM letterValue? =
          some (lowDigits 64 11 (4 * u.spelled)).reverse := by
        have := mapM_findIdx?_letters nodup_textAlphabet (by simp) 11 (4 * u.spelled)
        rw [length_textAlphabet] at this
        rw [toList_text hz]
        exact this
      have hfits : 4 * u.spelled < 64 ^ 11 := by
        have := u.spelled_lt
        omega
      simp only [parse, hread, List.length_reverse, length_lowDigits, ↓reduceIte,
        List.reverse_reverse, ofLowDigits_lowDigits, Nat.mod_eq_of_lt hfits]
      rw [Nat.mul_div_cancel_left _ (by decide), ofSpelled_spelled]

theorem text_injective : Function.Injective text := Function.LeftInverse.injective parse_text

theorem text_ne_empty {u : Uid} (h : u.isZero = false) : u.text.toList ≠ [] := by
  intro he
  have := congrArg List.length he
  simp [toList_text h] at this

/-- A public text is made of letters of its alphabet. -/
theorem mem_text {u : Uid} {c : Char} (h : c ∈ u.text.toList) : c ∈ textAlphabet := by
  cases hz : u.isZero with
  | true => simp [text, hz] at h
  | false => exact mem_of_mem_letters (by simp) (toList_text hz ▸ h)

/-! ### The storage key -/

theorem toList_key (u : Uid) : u.key.toList = letters keyAlphabet 13 (2 * u.spelled) := by
  simp [key]

/-- **Two identifiers never share a storage key.** -/
theorem key_injective : Function.Injective key := by
  intro u v h
  have hletters : letters keyAlphabet 13 (2 * u.spelled) =
      letters keyAlphabet 13 (2 * v.spelled) := by
    rw [← toList_key, ← toList_key, h]
  -- thirteen letters hold 65 bits, of which one is padding
  have hfits (w : Uid) : 2 * w.spelled < keyAlphabet.length ^ 13 := by
    have := w.spelled_lt
    rw [length_keyAlphabet]
    omega
  have := letters_inj nodup_keyAlphabet (by simp) (hfits u) (hfits v) hletters
  exact spelled_injective (by omega)

theorem mem_key {u : Uid} {c : Char} (h : c ∈ u.key.toList) : c ∈ keyAlphabet :=
  mem_of_mem_letters (by simp) (toList_key u ▸ h)

end Uid

/-- A storage key is a plain file name: thirteen letters, none of them a slash. -/
theorem LocalHandler.isPlain_key (u : Uid) : isPlain u.key = true := by
  have hlength : u.key.toList.length = 13 := by simp [Uid.toList_key]
  have hempty : u.key ≠ "" := by intro h; simp [h] at hlength
  have hone : u.key ≠ "." := by intro h; simp [h] at hlength
  have htwo : u.key ≠ ".." := by intro h; simp [h] at hlength
  have hslash : '/' ∉ u.key.toList := fun h => absurd (Uid.mem_key h) (by decide)
  exact isPlain_iff.mpr ⟨hempty, hslash, hone, htwo⟩

end MediaDepot
