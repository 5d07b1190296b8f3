import Briefing.Binary64.Decimal
import Briefing.Proofs.BinaryUnits
import Mathlib.Algebra.Group.Nat.Defs

namespace Briefing.Binary64

theorem divEven_mul_left {k : Nat} (pos : 0 < k) (num den : Nat) :
    divEven (k * num) (k * den) = divEven num den := by
  have less : 2 * (k * (num % den)) < k * den ↔ 2 * (num % den) < den := by
    rw [Nat.mul_left_comm, Nat.mul_lt_mul_left pos]
  have tie : 2 * (k * (num % den)) = k * den ↔ 2 * (num % den) = den := by
    rw [Nat.mul_left_comm, Nat.mul_left_cancel_iff pos]
  simp only [divEven, Nat.mul_div_mul_left num den pos, Nat.mul_mod_mul_left, less, tie]

theorem divEven_mul_self (q : Nat) {den : Nat} (pos : 0 < den) : divEven (q * den) den = q := by
  simp [divEven, Nat.mul_div_cancel q pos, pos]

theorem nearest_mul_left {k : Nat} (pos : 0 < k) (num den : Nat) :
    nearest (k * num) (k * den) = nearest num den := by
  simp only [nearest, Nat.mul_div_mul_left num den pos, Nat.shiftLeft_eq, Nat.mul_assoc,
    divEven_mul_left pos]

theorem ofRatio_mul_left {k : Nat} (pos : 0 < k) (num den : Nat) :
    ofRatio (k * num) (k * den) = ofRatio num den := by
  simp only [ofRatio, ofUnits, Nat.mul_assoc, nearest_mul_left pos]

theorem nearest_units (magnitude : Nat) : nearest (units magnitude) 1 = magnitude := by
  have whole : fractionCount = 2 ^ 52 := by decide
  rw [nearest, Nat.div_one]
  unfold units
  split
  · rename_i small
    have shift : magnitude.log2 - 52 = 0 := by
      by_cases zero : magnitude = 0
      · rw [zero]
        rfl
      · have short : magnitude.log2 < 53 := (Nat.log2_lt zero).mpr (by omega)
        omega
    have exact := divEven_mul_self magnitude Nat.one_pos
    rw [Nat.mul_one] at exact
    rw [shift, Nat.shiftLeft_zero, exact, Nat.zero_mul, Nat.zero_add]
  · rename_i large
    have fraction : magnitude % fractionCount < fractionCount := Nat.mod_lt _ (by decide)
    have exponent : 0 < magnitude / fractionCount := Nat.div_pos (Nat.le_of_not_lt large) (by decide)
    obtain ⟨e, he⟩ := Nat.exists_eq_add_one_of_ne_zero (Nat.ne_of_gt exponent)
    rw [he, Nat.add_sub_cancel, Nat.shiftLeft_eq]
    have pos : 0 < 2 ^ e := Nat.two_pow_pos e
    have log : ((fractionCount + magnitude % fractionCount) * 2 ^ e).log2 = 52 + e := by
      refine (Nat.log2_eq_iff (Nat.mul_ne_zero (by omega) (Nat.ne_of_gt pos))).mpr ⟨?_, ?_⟩
      · rw [Nat.pow_add, ← whole]
        exact Nat.mul_le_mul_right _ (Nat.le_add_right _ _)
      · rw [Nat.add_right_comm, Nat.pow_add, Nat.pow_succ, ← whole]
        exact Nat.mul_lt_mul_of_pos_right (by omega) pos
    have parts := Nat.div_add_mod magnitude fractionCount
    rw [log, Nat.add_sub_cancel_left, Nat.shiftLeft_eq, Nat.one_mul, divEven_mul_self _ pos]
    rw [he, Nat.mul_add, Nat.mul_comm fractionCount e] at parts
    omega

theorem ofUnits_units {x : Binary64} (nonneg : x.negative = false)
    (number : x.magnitude ≤ infiniteMagnitude) : ofUnits false (units x.magnitude) 1 = x := by
  cases x with
  | mk negative magnitude bound =>
      obtain rfl : negative = false := nonneg
      simp only [ofUnits, nearest_units, mk.injEq, true_and]
      exact Nat.min_eq_left number

theorem ofRatio_units {x : Binary64} (nonneg : x.negative = false)
    (number : x.magnitude ≤ infiniteMagnitude) {factor den : Nat} (pos : 0 < den)
    (split : den = unit * factor) : ofRatio (units x.magnitude * factor) den = x := by
  have scaled : units x.magnitude * factor * unit = den * units x.magnitude := by
    rw [split, Nat.mul_assoc, Nat.mul_comm factor, Nat.mul_comm]
  have exact := ofUnits_units nonneg number
  rw [← Nat.mul_one den, ofRatio, scaled]
  simp only [ofUnits, nearest_mul_left pos] at exact ⊢
  exact exact

theorem length_toDigits_mul_ten {d : Nat} (pos : 0 < d) :
    (Nat.toDigits 10 (10 * d)).length = (Nat.toDigits 10 d).length + 1 := by
  have longer := Nat.toDigits_append_toDigits (b := 10) (d := 0) (by decide) pos (by decide)
  rw [Nat.add_zero] at longer
  rw [← longer, List.length_append]
  rfl

theorem ofDecimal_shift (d : Nat) (exponent : Int) :
    ofDecimal ⟨10 * d, exponent - 1⟩ = ofDecimal ⟨d, exponent⟩ := by
  rcases Nat.eq_zero_or_pos d with rfl | pos
  · simp [ofDecimal]
  have nonzero : ¬ 10 * d = 0 := by omega
  have nonzero' : ¬ d = 0 := by omega
  have width : Decimal.width ⟨10 * d, exponent - 1⟩ = Decimal.width ⟨d, exponent⟩ := by
    simp only [Decimal.width, length_toDigits_mul_ten pos]
    omega
  simp only [ofDecimal, width, nonzero, nonzero', false_or, Nat.pow_eq]
  split
  · rfl
  · split
    · rfl
    · by_cases above : 1 ≤ exponent
      · have power : exponent.toNat = (exponent - 1).toNat + 1 := by omega
        rw [if_pos (by omega), if_pos (by omega), power, Nat.pow_succ, Nat.mul_comm 10 d,
          Nat.mul_assoc, Nat.mul_comm 10]
      · rw [if_neg (by omega)]
        have power : (exponent - 1).natAbs = exponent.natAbs + 1 := by omega
        rw [power, Nat.pow_succ, Nat.mul_comm _ 10, ofRatio_mul_left (by decide)]
        split
        · have units : exponent = 0 := by omega
          simp [units]
        · rfl

theorem ofDecimal_shifts (k d : Nat) (exponent : Int) :
    ofDecimal ⟨10 ^ k * d, exponent - k⟩ = ofDecimal ⟨d, exponent⟩ := by
  induction k with
  | zero => simp
  | succ k ih =>
      have step := ofDecimal_shift (10 ^ k * d) (exponent - k)
      rw [ih] at step
      rw [← step, Nat.pow_succ', Nat.mul_assoc]
      congr 2
      omega

theorem ofDecimal_eq_ofRatio {d : Nat} {exponent : Int} (pos : 0 < d) (below : exponent < 0)
    (low : -340 ≤ Decimal.width ⟨d, exponent⟩) (high : Decimal.width ⟨d, exponent⟩ ≤ 310) :
    ofDecimal ⟨d, exponent⟩ = ofRatio d (10 ^ exponent.natAbs) := by
  have small : ¬ (d = 0 ∨ Decimal.width ⟨d, exponent⟩ < -340) := by omega
  rw [ofDecimal, if_neg small, if_neg (Int.not_lt.mpr high), if_neg (Int.not_le.mpr below),
    Nat.pow_eq]

theorem ofDecimal_onGrid {x : Binary64} {exponent : Int} {d : Decimal}
    (h : onGrid x exponent = some d) : ofDecimal d = x := by
  unfold onGrid at h
  simp only at h
  split at h
  · rename_i below
    split at h
    · rename_i above
      rw [← Option.some.inj h]
      exact above.1
    · rw [← Option.some.inj h]
      exact below
  · split at h
    · rename_i above
      rw [← Option.some.inj h]
      exact above
    · cases h

theorem units_lt_shiftLeft {magnitude e : Nat} (h : magnitude / fractionCount ≤ e) :
    units magnitude < fractionCount <<< e := by
  refine Nat.lt_of_lt_of_le (units_lt magnitude) ?_
  rw [Nat.shiftLeft_eq, Nat.shiftLeft_eq]
  exact Nat.mul_le_mul_left _ (Nat.pow_le_pow_right (by decide) h)

theorem units_lt_finite {magnitude : Nat} (finite : magnitude < infiniteMagnitude) :
    units magnitude < fractionCount <<< 2046 := by
  have limit : infiniteMagnitude = fractionCount * 2047 := by decide
  rw [limit] at finite
  exact units_lt_shiftLeft (Nat.le_of_lt_succ (Nat.div_lt_of_lt_mul finite))

theorem length_toDigits_le {n k : Nat} (some : 0 < k) (small : n < 10 ^ k) :
    (Nat.toDigits 10 n).length ≤ k :=
  (Nat.length_toDigits_le_iff (by decide) some).mpr small

section

-- The exponent stands as a variable, so that no step but the three bounds has a power to evaluate.
variable {x : Binary64} {k : Nat} (grid : k = 1074)
include grid

theorem pow_le_fives : 10 ^ 734 ≤ 5 ^ k := by
  subst grid
  decide +kernel

theorem fives_le_pow : (fractionCount <<< 2046) * 5 ^ k ≤ 10 ^ 1384 := by
  subst grid
  decide +kernel

theorem tens_eq_unit : 10 ^ k = unit * 5 ^ k := by
  subst grid
  decide +kernel

theorem ofDecimal_grid (nonneg : x.negative = false) (pos : 0 < x.magnitude)
    (finite : x.magnitude < infiniteMagnitude) :
    ofDecimal ⟨units x.magnitude * Nat.pow 5 k, -1074⟩ = x := by
  have some := units_pos pos
  have five : 0 < 5 ^ k := Nat.pow_pos (by decide)
  have large : 10 ^ 734 ≤ units x.magnitude * 5 ^ k :=
    Nat.le_trans (pow_le_fives grid) (Nat.le_mul_of_pos_left _ some)
  have small : units x.magnitude * 5 ^ k < 10 ^ 1384 :=
    Nat.lt_of_lt_of_le (Nat.mul_lt_mul_of_pos_right (units_lt_finite finite) five) (fives_le_pow grid)
  have long : 734 < (Nat.toDigits 10 (units x.magnitude * 5 ^ k)).length := by
    refine Nat.lt_of_not_le fun short => ?_
    have less := (Nat.length_toDigits_le_iff (by decide) (by decide)).mp short
    omega
  have short : (Nat.toDigits 10 (units x.magnitude * 5 ^ k)).length ≤ 1384 :=
    length_toDigits_le (by decide) small
  have value : ofRatio (units x.magnitude * 5 ^ k) (10 ^ k) = x :=
    ofRatio_units nonneg (Nat.le_of_lt finite) (Nat.pow_pos (by decide)) (tens_eq_unit grid)
  have places : (-1074 : Int).natAbs = k := by omega
  rw [Nat.pow_eq, ofDecimal_eq_ofRatio (Nat.mul_pos some five) (by decide)
    (by simp only [Decimal.width]; omega) (by simp only [Decimal.width]; omega), places]
  exact value

end

theorem ofDecimal_units {x : Binary64} (nonneg : x.negative = false) (pos : 0 < x.magnitude)
    (finite : x.magnitude < infiniteMagnitude) :
    ofDecimal ⟨units x.magnitude * Nat.pow 5 1074, -1074⟩ = x := by
  generalize grid : 1074 = k
  exact ofDecimal_grid grid.symm nonneg pos finite

theorem ofDecimal_shortestFrom {x : Binary64} (nonneg : x.negative = false) (pos : 0 < x.magnitude)
    (finite : x.magnitude < infiniteMagnitude) (exponent : Int) (fuel : Nat) :
    ofDecimal (shortestFrom x exponent fuel) = x := by
  induction fuel generalizing exponent with
  | zero => exact ofDecimal_units nonneg pos finite
  | succ fuel ih =>
      rw [shortestFrom]
      cases found : onGrid x exponent with
      | none => exact ih (exponent - 1)
      | some d => exact ofDecimal_onGrid found

theorem ofDecimal_shortest {x : Binary64} (nonneg : x.negative = false) (pos : 0 < x.magnitude)
    (finite : x.magnitude < infiniteMagnitude) : ofDecimal x.shortest = x :=
  ofDecimal_shortestFrom nonneg pos finite _ _

end Briefing.Binary64
