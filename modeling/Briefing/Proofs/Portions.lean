import Briefing.Budget
import Mathlib.Data.Nat.ModEq

namespace Briefing.Budget

theorem narrow_le (n : Nat) : narrow n ≤ n := Nat.mod_le _ _

theorem narrow_of_lt {n : Nat} (h : n < 2 ^ 64) : narrow n = n := by
  have width : 1 <<< 64 = 2 ^ 64 := by decide
  rw [narrow, width]
  exact Nat.mod_eq_of_lt h

theorem quotient_le {part whole : Nat} (value : Nat) (h : part ≤ whole) :
    value * part / whole ≤ value :=
  Nat.div_le_of_le_mul (by rw [Nat.mul_comm]; exact Nat.mul_le_mul_right value h)

theorem quotient_lt {value part whole : Nat} (pos : 0 < value) (h : part < whole) :
    value * part / whole < value :=
  Nat.div_lt_of_lt_mul (by rw [Nat.mul_comm whole]; exact Nat.mul_lt_mul_of_pos_left h pos)

theorem le_quotient {value part whole : Nat} (pos : 0 < whole) (h : whole ≤ value) :
    part ≤ value * part / whole :=
  (Nat.le_div_iff_mul_le pos).mpr (by rw [Nat.mul_comm]; exact Nat.mul_le_mul_right part h)

theorem quotients_le (value x y : Nat) :
    value * x / (x + y) + value * y / (x + y) ≤ value := by
  calc value * x / (x + y) + value * y / (x + y)
      ≤ (value * x + value * y) / (x + y) := Nat.div_add_div_le_add_div
    _ = value * (x + y) / (x + y) := by rw [Nat.mul_add]
    _ ≤ value := quotient_le value (Nat.le_refl _)

/-- The two roundings lose less than one token each, and so at most one together. -/
theorem le_quotients (value : Nat) {x y : Nat} (pos : 0 < x + y) :
    value ≤ value * x / (x + y) + value * y / (x + y) + 1 := by
  calc value = (value * x + value * y) / (x + y) := by
        rw [← Nat.mul_add, Nat.mul_div_cancel _ pos]
    _ ≤ value * x / (x + y) + value * y / (x + y) + 1 := Nat.add_div_le_div_add_div_add_one _ _ _

theorem percentOf_le (value percent : Nat) : percentOf value percent ≤ value * percent / 100 :=
  narrow_le _

theorem percentOf_eq {value percent : Nat} (bound : value < 2 ^ 64) (h : percent ≤ 100) :
    percentOf value percent = value * percent / 100 :=
  narrow_of_lt ((quotient_le value h).trans_lt bound)

theorem percentOf_mono {value larger percent : Nat} (h : value ≤ larger) (bound : larger < 2 ^ 64)
    (part : percent ≤ 100) : percentOf value percent ≤ percentOf larger percent := by
  rw [percentOf_eq (h.trans_lt bound) part, percentOf_eq bound part]
  exact Nat.div_le_div_right (Nat.mul_le_mul_right percent h)

theorem two_percentOf_le {percent : Nat} (value : Nat) (h : percent ≤ 50) :
    2 * percentOf value percent ≤ value := by
  have below := percentOf_le value percent
  have half : value * percent / 100 * 100 ≤ value * 50 :=
    (Nat.div_mul_le_self _ _).trans (Nat.mul_le_mul_left value h)
  omega

theorem proportion_le {part whole : Nat} (value : Nat) (h : part ≤ whole) :
    proportion value part whole ≤ value :=
  (narrow_le _).trans (quotient_le value h)

theorem proportion_eq {value part whole : Nat} (bound : value < 2 ^ 64) (h : part ≤ whole) :
    proportion value part whole = value * part / whole :=
  narrow_of_lt ((quotient_le value h).trans_lt bound)

end Briefing.Budget
