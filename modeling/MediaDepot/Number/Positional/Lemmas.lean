import Mathlib.Algebra.Group.Nat.Defs
import MediaDepot.Number.Positional

/-!
# Positional digits and powers of the base

* `ofLowDigits_lowDigits` — the lowest digits of a number give back the number, less what does not
  fit into so many digits.
* `ofLowDigits_lt` — so many digits stay below that power of the base.
-/

namespace MediaDepot.Number

theorem ofLowDigits_lowDigits (base count n : Nat) :
    ofLowDigits base (lowDigits base count n) = n % base ^ count := by
  induction count generalizing n with
  | zero => simp [lowDigits, ofLowDigits, Nat.mod_one]
  | succ count ih =>
    rw [lowDigits, ofLowDigits, ih, Nat.pow_succ, Nat.mul_comm (base ^ count) base, Nat.mod_mul]

theorem ofLowDigits_lt {base : Nat} {digits : List Nat} (h : ∀ d ∈ digits, d < base) :
    ofLowDigits base digits < base ^ digits.length := by
  induction digits with
  | nil => simp [ofLowDigits]
  | cons d rest ih =>
    have hd : d < base := h d (by simp)
    have hr := ih fun x hx => h x (by simp [hx])
    rw [ofLowDigits, List.length_cons, Nat.pow_succ]
    calc d + base * ofLowDigits base rest < base + base * ofLowDigits base rest := by omega
      _ = base * (ofLowDigits base rest + 1) := by rw [Nat.mul_add, Nat.mul_one, Nat.add_comm]
      _ ≤ base * base ^ rest.length := Nat.mul_le_mul_left _ hr
      _ = base ^ rest.length * base := Nat.mul_comm _ _

end MediaDepot.Number
