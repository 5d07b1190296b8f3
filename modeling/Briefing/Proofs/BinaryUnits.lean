import Briefing.Proofs.LiveScores

namespace Briefing.Binary64

theorem units_lt (magnitude : Nat) : units magnitude < fractionCount <<< (magnitude / fractionCount) := by
  unfold units
  split
  · rename_i small
    rw [Nat.div_eq_of_lt small]
    exact small
  · rename_i large
    have fraction : magnitude % fractionCount < fractionCount := Nat.mod_lt _ (by decide)
    have exponent : 0 < magnitude / fractionCount := Nat.div_pos (Nat.le_of_not_lt large) (by decide)
    obtain ⟨e, he⟩ := Nat.exists_eq_add_one_of_ne_zero (Nat.ne_of_gt exponent)
    rw [he, Nat.add_sub_cancel, Nat.shiftLeft_eq, Nat.shiftLeft_eq, Nat.pow_succ, Nat.mul_comm _ 2,
      ← Nat.mul_assoc]
    exact Nat.mul_lt_mul_of_pos_right (by omega) (Nat.two_pow_pos e)

theorem le_units {magnitude e : Nat} (h : e < magnitude / fractionCount) :
    fractionCount <<< e ≤ units magnitude := by
  have large : ¬ magnitude < fractionCount := by
    intro small
    rw [Nat.div_eq_of_lt small] at h
    cases h
  rw [units, if_neg large, Nat.shiftLeft_eq, Nat.shiftLeft_eq]
  exact Nat.mul_le_mul (Nat.le_add_right _ _) (Nat.pow_le_pow_right (by decide) (by omega))

theorem units_strictMono {m n : Nat} (h : m < n) : units m < units n := by
  rcases Nat.lt_or_eq_of_le (Nat.div_le_div_right (c := fractionCount) (Nat.le_of_lt h)) with
    below | same
  · exact Nat.lt_of_lt_of_le (units_lt m) (le_units below)
  · have parts := Nat.div_add_mod m fractionCount
    have parts' := Nat.div_add_mod n fractionCount
    rw [same] at parts
    unfold units
    by_cases small : n < fractionCount
    · rw [if_pos small, if_pos (Nat.lt_trans h small)]
      exact h
    · have small' : ¬ m < fractionCount := by
        intro less
        rw [Nat.div_eq_of_lt less] at same
        exact small ((Nat.div_eq_zero_iff_lt (by decide)).mp same.symm)
      rw [if_neg small, if_neg small', same, Nat.shiftLeft_eq, Nat.shiftLeft_eq]
      exact Nat.mul_lt_mul_of_pos_right (by omega) (Nat.two_pow_pos _)

theorem units_mono {m n : Nat} (h : m ≤ n) : units m ≤ units n := by
  rcases Nat.lt_or_eq_of_le h with less | rfl
  · exact Nat.le_of_lt (units_strictMono less)
  · exact Nat.le_refl _

structure InUnit (x : Binary64) : Prop where
  number : x.isNaN = false
  positive : 0 < x.signedUnits
  le_one : x.signedUnits ≤ unit

theorem units_one : units one.magnitude = unit := by decide +kernel

theorem Fraction.signedUnits_eq {x : Binary64} (h : Fraction x) :
    x.signedUnits = (units x.magnitude : Nat) := by
  simp [signedUnits, h.nonneg]

theorem Fraction.units_le {x : Binary64} (h : Fraction x) : units x.magnitude ≤ unit := by
  rw [← units_one]
  exact units_mono h.le_one

theorem inUnit_iff_isLiveScore {x : Binary64} : x.InUnit ↔ Settings.isLiveScore x = true := by
  rw [isLiveScore_iff]
  constructor
  · rintro ⟨-, positive, le_one⟩
    have sign : x.negative = false := by
      cases sign : x.negative with
      | false => rfl
      | true =>
          simp only [signedUnits, sign, if_true] at positive
          omega
    simp only [signedUnits, sign, Bool.false_eq_true, if_false] at positive le_one
    refine ⟨⟨sign, Nat.le_of_not_lt fun above => ?_⟩, Nat.pos_of_ne_zero fun zero => ?_⟩
    · have more := units_strictMono above
      rw [units_one] at more
      omega
    · rw [zero] at positive
      exact absurd positive (by decide)
  · rintro ⟨fraction, positive⟩
    have value := fraction.signedUnits_eq
    have some := units_pos positive
    have most := fraction.units_le
    exact ⟨fraction.not_nan, by omega, by omega⟩

end Briefing.Binary64
