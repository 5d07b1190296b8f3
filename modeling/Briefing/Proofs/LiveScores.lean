import Briefing.Proofs.Validity
import Briefing.Scoring

namespace Briefing.Binary64

theorem nearest_pos {num : Nat} (pos : 0 < num) : 0 < nearest num 1 := by
  rcases Nat.eq_zero_or_pos ((num / 1).log2 - 52) with small | large
  · have exact : divEven num 1 = num := by simp [divEven, Nat.mod_one]
    rw [nearest, small, Nat.shiftLeft_zero, exact]
    omega
  · have unit : 0 < fractionCount := by decide
    have exponent : 0 < ((num / 1).log2 - 52) * fractionCount := Nat.mul_pos large unit
    simp only [nearest]
    omega

theorem units_pos {magnitude : Nat} (pos : 0 < magnitude) : 0 < units magnitude := by
  unfold units
  split
  · exact pos
  · have unit : 0 < fractionCount := by decide
    rw [Nat.shiftLeft_eq]
    exact Nat.mul_pos (by omega) (Nat.two_pow_pos _)

structure Fraction (x : Binary64) : Prop where
  nonneg : x.negative = false
  le_one : x.magnitude ≤ one.magnitude

theorem one_lt_infinite : one.magnitude < infiniteMagnitude := by decide

theorem Fraction.not_nan {x : Binary64} (h : Fraction x) : x.isNaN = false := by
  have := h.le_one
  have := one_lt_infinite
  simp only [isNaN, decide_eq_false_iff_not]
  omega

theorem Fraction.not_infinite {x : Binary64} (h : Fraction x) : x.isInfinite = false := by
  have := h.le_one
  have := one_lt_infinite
  simp only [isInfinite, beq_eq_false_iff_ne]
  omega

theorem fraction_zero : Fraction zero := ⟨rfl, by decide⟩

theorem isLiveScore_iff {x : Binary64} :
    Settings.isLiveScore x = true ↔ Fraction x ∧ 0 < x.magnitude := by
  have unit := one_lt_infinite
  have zeroNumber : zero.isNaN = false := by decide
  have oneNumber : one.isNaN = false := by decide
  have zeroPlace : zero.place = 0 := by decide
  have onePlace : one.place = (one.magnitude : Int) := rfl
  simp only [Settings.isLiveScore, lt, le, zeroNumber, oneNumber, zeroPlace, onePlace,
    Bool.and_eq_true, Bool.not_eq_true', Bool.not_false, decide_eq_true_eq, true_and, and_true]
  constructor
  · rintro ⟨⟨-, positive⟩, -, below⟩
    cases sign : x.negative with
    | true =>
        simp only [place, sign, if_true] at positive
        omega
    | false =>
        simp only [place, sign, Bool.false_eq_true, if_false] at positive below
        exact ⟨⟨sign, by omega⟩, by omega⟩
  · rintro ⟨fraction, positive⟩
    have place : x.place = (x.magnitude : Int) := by simp [place, fraction.nonneg]
    have le_one := fraction.le_one
    exact ⟨⟨fraction.not_nan, by omega⟩, fraction.not_nan, by omega⟩

theorem fraction_saturate (n saturation : Nat) : Fraction (Scoring.saturate n saturation) := by
  have unit := one_lt_infinite
  simp only [Scoring.saturate, lesser]
  generalize quotient : divPositive (ofNat n) (ofNat (max 1 saturation)) = q
  have nonneg : q.negative = false := by rw [← quotient]; rfl
  have finite : q.magnitude ≤ infiniteMagnitude := by
    rw [← quotient]
    exact Nat.min_le_right _ _
  split
  · exact ⟨rfl, Nat.le_refl _⟩
  · rename_i h
    refine ⟨nonneg, ?_⟩
    have number : q.isNaN = false := by
      simp only [isNaN, decide_eq_false_iff_not]
      omega
    have number' : one.isNaN = false := by decide
    simp only [lt, number, number', Bool.not_false, Bool.true_and, decide_eq_true_eq] at h
    have oneNonneg : one.negative = false := rfl
    simp only [place, nonneg, oneNonneg, Bool.false_eq_true, if_false] at h
    omega

theorem isZero_add {x y : Binary64} (hx : Fraction x) (pos : 0 < x.magnitude) (hy : Fraction y) :
    (x.add y).isZero = false := by
  have left : 0 < units x.magnitude := units_pos pos
  have sum : x.signedUnits + y.signedUnits = (units x.magnitude + units y.magnitude : Nat) := by
    simp [signedUnits, hx.nonneg, hy.nonneg]
  have magnitude : 0 < nearest (units x.magnitude + units y.magnitude) 1 := nearest_pos (by omega)
  have bound : 0 < infiniteMagnitude := by decide
  simp only [add, hx.not_nan, hy.not_nan, hx.not_infinite, hy.not_infinite, Bool.false_eq_true,
    if_false, sum, Int.natAbs_natCast]
  simp only [isZero, ofUnits, beq_eq_false_iff_ne]
  omega

end Briefing.Binary64

namespace Briefing.Scoring

open Binary64

theorem bucketScore_mem {age : Int} {buckets : List RecencyBucket} {x : Binary64}
    (h : bucketScore age buckets = some x) : ∃ b ∈ buckets, b.score = x := by
  induction buckets with
  | nil => cases h
  | cons b bs ih =>
      rw [bucketScore] at h
      split at h
      · exact ⟨b, List.mem_cons_self, Option.some.inj h⟩
      · obtain ⟨c, hc, hx⟩ := ih h
        exact ⟨c, List.mem_cons_of_mem b hc, hx⟩

theorem fraction_relevance (scoring : ScoringSettings) (keywords : List String) (e : Entry) :
    Fraction (relevance scoring keywords e) := by
  unfold relevance
  split
  · exact fraction_zero
  · exact fraction_saturate _ _

section

variable {settings : Settings} (valid : settings.Valid)
include valid

theorem isLiveScore_recency (now : Instant) (e : Entry) :
    Settings.isLiveScore (recency settings.scoring now e) = true := by
  unfold recency
  split
  · exact valid.staleScore
  · rename_i date _
    cases found : bucketScore (ageInDays date now) settings.scoring.recencyBuckets with
    | none => exact valid.staleScore
    | some x =>
        obtain ⟨b, hb, rfl⟩ := bucketScore_mem found
        exact valid.bucketScores b hb

theorem isZero_score (keywords : List String) (now : Instant) (e : Entry) :
    (score settings.scoring keywords now e).isZero = e.superseded := by
  obtain ⟨recent, pos⟩ := isLiveScore_iff.mp (isLiveScore_recency valid now e)
  cases h : e.superseded with
  | true => simp [score, h, isZero, zero]
  | false =>
      rw [score, if_neg (by simp [h])]
      exact isZero_add recent pos (fraction_relevance settings.scoring keywords e)

end

end Briefing.Scoring
