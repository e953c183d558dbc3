/-!
# Positional digits

A number below a power of the base is the same as a list of digits of that length. The lowest digit
comes first.

* `lowDigits` and `ofLowDigits` — there and back; `lowDigits_ofLowDigits` says that no digit is
  lost on the way to a number and back.
-/

namespace MediaDepot.Number

/-- The lowest `count` digits of a number, the lowest first. -/
def lowDigits (base : Nat) : (count : Nat) → Nat → List Nat
  | 0, _ => []
  | count + 1, n => n % base :: lowDigits base count (n / base)

/-- The number with the given digits, the lowest first. -/
def ofLowDigits (base : Nat) : List Nat → Nat
  | [] => 0
  | d :: rest => d + base * ofLowDigits base rest

@[simp]
theorem length_lowDigits (base count n : Nat) : (lowDigits base count n).length = count := by
  induction count generalizing n with
  | zero => rfl
  | succ count ih => simp [lowDigits, ih]

theorem lt_of_mem_lowDigits {base count n d : Nat} (pos : 0 < base)
    (h : d ∈ lowDigits base count n) : d < base := by
  induction count generalizing n with
  | zero => simp [lowDigits] at h
  | succ count ih =>
    rcases List.mem_cons.1 h with rfl | h
    · exact Nat.mod_lt _ pos
    · exact ih h

theorem lowDigits_ofLowDigits {base : Nat} {digits : List Nat} (h : ∀ d ∈ digits, d < base) :
    lowDigits base digits.length (ofLowDigits base digits) = digits := by
  induction digits with
  | nil => rfl
  | cons d rest ih =>
    have hd : d < base := h d (by simp)
    have pos : 0 < base := Nat.lt_of_le_of_lt (Nat.zero_le d) hd
    have hr := ih fun x hx => h x (by simp [hx])
    rw [List.length_cons, lowDigits, ofLowDigits, Nat.add_mul_mod_self_left, Nat.mod_eq_of_lt hd,
      Nat.add_mul_div_left _ _ pos, Nat.div_eq_of_lt hd, Nat.zero_add, hr]

end MediaDepot.Number
