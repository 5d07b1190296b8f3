import Briefing.Proofs.DecimalReading
import Mathlib.Data.Nat.Log

namespace Briefing

namespace Binary64

theorem div_le_divEven (num den : Nat) : num / den ≤ divEven num den := by
  simp only [divEven]
  split
  · exact Nat.le_refl _
  · exact Nat.le_add_right _ 1

theorem divEven_le (num den : Nat) : divEven num den ≤ num / den + 1 := by
  simp only [divEven]
  split
  · exact Nat.le_add_right _ 1
  · exact Nat.le_refl _

theorem divEven_mono {a b : Nat} (den : Nat) (h : a ≤ b) : divEven a den ≤ divEven b den := by
  rcases Nat.lt_or_eq_of_le (Nat.div_le_div_right (c := den) h) with less | same
  · calc divEven a den ≤ a / den + 1 := divEven_le a den
      _ ≤ b / den := less
      _ ≤ divEven b den := div_le_divEven b den
  · have parts := Nat.div_add_mod a den
    have parts' := Nat.div_add_mod b den
    rw [← same] at parts'
    have rest : a % den ≤ b % den := by omega
    simp only [divEven, ← same]
    split
    · split <;> omega
    · split <;> omega

def droppedBits (num den : Nat) : Nat := (num / den).log2 - 52

theorem droppedBits_mono {a b : Nat} (den : Nat) (h : a ≤ b) :
    droppedBits a den ≤ droppedBits b den := by
  have quotients : a / den ≤ b / den := Nat.div_le_div_right h
  simp only [droppedBits, Nat.log2_eq_log_two]
  exact Nat.sub_le_sub_right (Nat.log_mono_right quotients) 52

theorem nearest_eq (num den : Nat) :
    nearest num den = droppedBits num den * fractionCount +
      divEven num (den <<< droppedBits num den) := rfl

theorem div_shiftLeft (num den shift : Nat) : num / den <<< shift = num / den / 2 ^ shift := by
  rw [Nat.shiftLeft_eq, Nat.div_div_eq_div_mul]

theorem nearest_le (num den : Nat) :
    nearest num den ≤ (droppedBits num den + 2) * fractionCount := by
  have whole : fractionCount = 2 ^ 52 := by decide
  have wide : num / den < 2 ^ (droppedBits num den + 53) := by
    by_cases zero : num / den = 0
    · rw [zero]
      exact Nat.two_pow_pos _
    · exact (Nat.log2_lt zero).mp (by simp only [droppedBits]; omega)
  have short : num / den / 2 ^ droppedBits num den < 2 ^ 53 := by
    rw [Nat.div_lt_iff_lt_mul (Nat.two_pow_pos _), ← Nat.pow_add, Nat.add_comm]
    exact wide
  have rounded := divEven_le num (den <<< droppedBits num den)
  rw [div_shiftLeft] at rounded
  rw [nearest_eq, Nat.add_mul, whole]
  omega

theorem le_nearest {num den : Nat} (some : 0 < droppedBits num den) :
    (droppedBits num den + 1) * fractionCount ≤ nearest num den := by
  have whole : fractionCount = 2 ^ 52 := by decide
  have nonzero : num / den ≠ 0 := by
    intro zero
    simp [droppedBits, zero] at some
  have wide : 2 ^ (droppedBits num den + 52) ≤ num / den := by
    refine (Nat.le_log2 nonzero).mp ?_
    simp only [droppedBits] at some ⊢
    omega
  have long : 2 ^ 52 ≤ num / den / 2 ^ droppedBits num den := by
    rw [Nat.le_div_iff_mul_le (Nat.two_pow_pos _), ← Nat.pow_add, Nat.add_comm]
    exact wide
  have rounded := div_le_divEven num (den <<< droppedBits num den)
  rw [div_shiftLeft] at rounded
  rw [nearest_eq, Nat.add_mul, whole]
  omega

theorem nearest_mono {a b : Nat} (den : Nat) (h : a ≤ b) : nearest a den ≤ nearest b den := by
  rcases Nat.lt_or_eq_of_le (droppedBits_mono den h) with more | same
  · calc nearest a den ≤ (droppedBits a den + 2) * fractionCount := nearest_le a den
      _ ≤ (droppedBits b den + 1) * fractionCount := Nat.mul_le_mul_right _ (by omega)
      _ ≤ nearest b den := le_nearest (Nat.zero_lt_of_lt more)
  · rw [nearest_eq, nearest_eq, same]
    exact Nat.add_le_add_left (divEven_mono _ h) _

def two : Binary64 := ⟨false, 1024 <<< 52, by decide⟩

theorem units_two : units two.magnitude = 2 * unit := by decide +kernel

theorem add_le_two {x y : Binary64} (hx : Fraction x) (hy : Fraction y) :
    (x.add y).negative = false ∧ (x.add y).magnitude ≤ two.magnitude := by
  have sum : x.signedUnits + y.signedUnits = (units x.magnitude + units y.magnitude : Nat) := by
    rw [hx.signedUnits_eq, hy.signedUnits_eq, Int.natCast_add]
  have small : units x.magnitude + units y.magnitude ≤ units two.magnitude := by
    have left := hx.units_le
    have right := hy.units_le
    rw [units_two]
    omega
  have rounded := nearest_mono 1 small
  rw [nearest_units] at rounded
  simp only [add, hx.not_nan, hy.not_nan, hx.not_infinite, hy.not_infinite, Bool.false_eq_true,
    if_false, sum, Int.natAbs_natCast]
  constructor
  · simp only [ofUnits, hx.nonneg, Bool.false_and, ite_eq_left_iff, decide_eq_false_iff_not]
    omega
  · exact Nat.le_trans (Nat.min_le_left _ _) rounded

theorem add_range {x y : Binary64} (hx : Fraction x) (pos : 0 < x.magnitude) (hy : Fraction y) :
    (x.add y).isNaN = false ∧ 0 < (x.add y).signedUnits ∧ (x.add y).signedUnits ≤ 2 * unit := by
  obtain ⟨nonneg, le_two⟩ := add_le_two hx hy
  have nonzero := isZero_add hx pos hy
  simp only [isZero, beq_eq_false_iff_ne] at nonzero
  have value : (x.add y).signedUnits = (units (x.add y).magnitude : Nat) := by
    simp [signedUnits, nonneg]
  have some := units_pos (Nat.pos_of_ne_zero nonzero)
  have most := units_mono le_two
  have finite : two.magnitude < infiniteMagnitude := by decide
  rw [units_two] at most
  refine ⟨?_, by omega, by omega⟩
  simp only [isNaN, decide_eq_false_iff_not]
  omega

end Binary64

namespace Scoring

open Binary64

/-- The ranges of the two parts of a score, and of the score itself; zero is kept for superseded
entries. Values are counted in units. -/
structure InRange (scoring : ScoringSettings) (keywords : List String) (now : Instant) (e : Entry) :
    Prop where
  recency : (recency scoring now e).InUnit
  relevance_number : (relevance scoring keywords e).isNaN = false
  relevance_range : 0 ≤ (relevance scoring keywords e).signedUnits ∧
    (relevance scoring keywords e).signedUnits ≤ unit
  zero_iff : (score scoring keywords now e).isZero = true ↔ e.superseded = true
  superseded : e.superseded = true → score scoring keywords now e = zero
  live : e.superseded = false →
    (score scoring keywords now e).isNaN = false ∧
      0 < (score scoring keywords now e).signedUnits ∧
      (score scoring keywords now e).signedUnits ≤ 2 * unit

theorem score_inRange {settings : Settings} (accepted : settings.fault? = none)
    (keywords : List String) (now : Instant) (e : Entry) :
    InRange settings.scoring keywords now e := by
  have valid := Settings.fault?_eq_none_iff.mp accepted
  have recent := isLiveScore_recency valid now e
  have relevant := fraction_relevance settings.scoring keywords e
  refine ⟨inUnit_iff_isLiveScore.mpr recent, relevant.not_nan, ?_, ?_, ?_, ?_⟩
  · rw [relevant.signedUnits_eq]
    have le_one := relevant.units_le
    omega
  · rw [isZero_score valid keywords now e]
  · intro dead
    rw [score, if_pos dead]
  · intro live
    have sum : score settings.scoring keywords now e =
        (recency settings.scoring now e).add (relevance settings.scoring keywords e) := by
      rw [score, if_neg (by simp [live])]
    obtain ⟨fraction, pos⟩ := isLiveScore_iff.mp recent
    rw [sum]
    exact add_range fraction pos relevant

def hooked : Entry :=
  Entry.ofLines ⟨"2026-02-19-120000", "2026-02-19", "Hooks"⟩
    ["## [2026-02-19-120000] Hooks", "Agent hooks fail in SCORING."]

theorem score_inRange_highest :
    let noon : Instant := ⟨1771502400, 0⟩
    let keywords := ["hook", "agent", "scoring", "Hook"]
    let undated : Entry := { hooked with header := ⟨"-", "soon", "Hooks"⟩ }
    Settings.terse.fault? = none ∧
      (hooked.superseded = false ∧ score Settings.terse.scoring keywords noon hooked = two) ∧
      InRange Settings.terse.scoring keywords noon hooked ∧
      undated.date? = none ∧ InRange Settings.terse.scoring keywords noon undated := by
  refine ⟨Settings.fault?_terse, ⟨by decide +kernel, by decide +kernel⟩, ?_, by decide +kernel, ?_⟩
  · exact score_inRange Settings.fault?_terse _ _ hooked
  · exact score_inRange Settings.fault?_terse _ _ _

end Scoring

end Briefing
