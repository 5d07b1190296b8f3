import Briefing.Proofs.BinaryUnits
import Mathlib.Order.Monotone.Basic

namespace Briefing.Binary64

/-- The total order of doubles. Numbers go by their values, and negative zero comes before zero. What
is no number lies beyond all numbers on the side of its sign, and among its like it goes by its bits. -/
inductive Precedes (x y : Binary64) : Prop where
  | value : x.isNaN = false → y.isNaN = false → x.signedUnits < y.signedUnits → Precedes x y
  | zeros : x.isZero = true → y.isZero = true → x.negative = true → y.negative = false →
      Precedes x y
  | below : x.isNaN = true → x.negative = true → y.isNaN = false → Precedes x y
  | above : x.isNaN = false → y.isNaN = true → y.negative = false → Precedes x y
  | across : x.isNaN = true → y.isNaN = true → x.negative = true → y.negative = false →
      Precedes x y
  | upwards : x.isNaN = true → y.isNaN = true → x.negative = false → y.negative = false →
      x.magnitude < y.magnitude → Precedes x y
  | downwards : x.isNaN = true → y.isNaN = true → x.negative = true → y.negative = true →
      y.magnitude < x.magnitude → Precedes x y

theorem units_lt_iff {m n : Nat} : units m < units n ↔ m < n :=
  StrictMono.lt_iff_lt fun _ _ => units_strictMono

theorem signedUnits_lt_iff {x y : Binary64} :
    x.signedUnits < y.signedUnits ↔ x.place < y.place := by
  have origin : units 0 = 0 := rfl
  have positiveX : units 0 < units x.magnitude ↔ 0 < x.magnitude := units_lt_iff
  have positiveY : units 0 < units y.magnitude ↔ 0 < y.magnitude := units_lt_iff
  have less : units x.magnitude < units y.magnitude ↔ x.magnitude < y.magnitude := units_lt_iff
  have more : units y.magnitude < units x.magnitude ↔ y.magnitude < x.magnitude := units_lt_iff
  rw [origin] at positiveX positiveY
  cases signX : x.negative <;> cases signY : y.negative <;>
    simp only [signedUnits, place, signX, signY, if_true, Bool.false_eq_true, if_false] <;> omega

theorem rank_of_negative {x : Binary64} (sign : x.negative = true) :
    x.rank = -(x.magnitude : Int) - 1 := by
  rw [rank, if_pos sign]

theorem rank_of_positive {x : Binary64} (sign : x.negative = false) : x.rank = x.magnitude := by
  simp [rank, sign]

theorem rank_of_isNaN {x : Binary64} (kind : x.isNaN = true) :
    (x.negative = true → x.rank < -(infiniteMagnitude : Int) - 1) ∧
      (x.negative = false → (infiniteMagnitude : Int) < x.rank) := by
  rw [isNaN, decide_eq_true_eq] at kind
  constructor
  · intro sign
    rw [rank_of_negative sign]
    omega
  · intro sign
    rw [rank_of_positive sign]
    omega

theorem rank_of_number {x : Binary64} (kind : x.isNaN = false) :
    -(infiniteMagnitude : Int) - 1 ≤ x.rank ∧ x.rank ≤ infiniteMagnitude := by
  rw [isNaN, decide_eq_false_iff_not] at kind
  cases sign : x.negative with
  | true =>
      rw [rank_of_negative sign]
      omega
  | false =>
      rw [rank_of_positive sign]
      omega

theorem Precedes.rank_lt {x y : Binary64} (h : x.Precedes y) : x.rank < y.rank := by
  cases h with
  | value _ _ less =>
      rw [signedUnits_lt_iff] at less
      cases signX : x.negative <;> cases signY : y.negative <;>
        simp only [place, rank, signX, signY, if_true, Bool.false_eq_true, if_false] at less ⊢ <;>
        omega
  | zeros _ _ signX signY =>
      rw [rank_of_negative signX, rank_of_positive signY]
      omega
  | below kindX signX kindY =>
      exact ((rank_of_isNaN kindX).1 signX).trans_le (rank_of_number kindY).1
  | above kindX kindY signY =>
      exact (rank_of_number kindX).2.trans_lt ((rank_of_isNaN kindY).2 signY)
  | across _ _ signX signY =>
      rw [rank_of_negative signX, rank_of_positive signY]
      omega
  | upwards _ _ signX signY less =>
      rw [rank_of_positive signX, rank_of_positive signY]
      omega
  | downwards _ _ signX signY less =>
      rw [rank_of_negative signX, rank_of_negative signY]
      omega

theorem precedes_numbers {x y : Binary64} (kindX : x.isNaN = false) (kindY : y.isNaN = false)
    (h : x.rank < y.rank) : x.Precedes y := by
  by_cases less : x.place < y.place
  · exact .value kindX kindY (signedUnits_lt_iff.mpr less)
  · cases signX : x.negative <;> cases signY : y.negative <;>
      simp only [place, rank, signX, signY, if_true, Bool.false_eq_true, if_false] at less h
    · omega
    · omega
    · have nothing : x.magnitude = 0 ∧ y.magnitude = 0 := by omega
      exact .zeros (beq_iff_eq.mpr nothing.1) (beq_iff_eq.mpr nothing.2) signX signY
    · omega

theorem precedes_of_rank_lt {x y : Binary64} (h : x.rank < y.rank) : x.Precedes y := by
  cases kindX : x.isNaN with
  | false =>
      cases kindY : y.isNaN with
      | false => exact precedes_numbers kindX kindY h
      | true =>
          have low := (rank_of_number kindX).1
          cases signY : y.negative with
          | false => exact .above kindX kindY signY
          | true =>
              have lower := (rank_of_isNaN kindY).1 signY
              omega
  | true =>
      cases kindY : y.isNaN with
      | false =>
          have high := (rank_of_number kindY).2
          cases signX : x.negative with
          | false =>
              have higher := (rank_of_isNaN kindX).2 signX
              omega
          | true => exact .below kindX signX kindY
      | true =>
          cases signX : x.negative <;> cases signY : y.negative <;>
            simp only [rank, signX, signY, if_true, Bool.false_eq_true, if_false] at h
          · exact .upwards kindX kindY signX signY (by omega)
          · omega
          · exact .across kindX kindY signX signY
          · exact .downwards kindX kindY signX signY (by omega)

theorem precedes_iff_rank_lt {x y : Binary64} : x.Precedes y ↔ x.rank < y.rank :=
  ⟨Precedes.rank_lt, precedes_of_rank_lt⟩

end Briefing.Binary64
