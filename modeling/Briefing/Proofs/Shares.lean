import Briefing.Proofs.Portions
import Mathlib.Data.Rat.Floor

namespace Briefing.Budget

-- The same shares in the arithmetic of words: nothing comes out where a result does not fit, where
-- more is taken away than there is, or where the divisor is zero. Products have twice the width.
namespace Checked

def add (x y : Nat) : Option Nat := if x + y < 2 ^ 64 then some (x + y) else none

def sub (x y : Nat) : Option Nat := if y ≤ x then some (x - y) else none

def quotient (value part whole : Nat) : Option Nat :=
  if whole ≠ 0 ∧ value * part < 2 ^ 128 ∧ value * part / whole < 2 ^ 64 then
    some (value * part / whole)
  else none

def need : List ScoredEntry → Option Nat
  | [] => some 0
  | e :: es => (need es).bind (add e.tokens)

def shareAboveFloor (total floorPercent needA combined : Nat) : Option Nat := do
  let floor ← quotient total (min floorPercent 50) 100
  let both ← add floor floor
  let flex ← sub total both
  let part ← quotient flex needA combined
  add floor part

def firstShare (total floorPercent needA combined : Nat) : Option Nat :=
  if combined = 0 then some (total / 2)
  else if combined ≤ total then quotient total needA combined
  else shareAboveFloor total floorPercent needA combined

def split (total : Nat) (a b : List ScoredEntry) (floorPercent : Nat) : Option (Nat × Nat) :=
  match a, b with
  | [], [] => some (0, 0)
  | [], _ => some (0, total)
  | _, [] => some (total, 0)
  | _, _ => do
      let needA ← need a
      let needB ← need b
      let combined ← add needA needB
      let share ← firstShare total floorPercent needA combined
      let rest ← sub total share
      some (share, rest)

end Checked

theorem shareAboveFloor_le (total floorPercent needA needB : Nat) :
    shareAboveFloor total floorPercent needA needB ≤ total := by
  have floors := two_percentOf_le total (Nat.min_le_right floorPercent 50)
  have flex := proportion_le (total - 2 * percentOf total (min floorPercent 50))
    (Nat.le_add_right needA needB)
  simp only [shareAboveFloor]
  omega

theorem firstShare_le (total floorPercent needA needB : Nat) :
    firstShare total floorPercent needA needB ≤ total := by
  unfold firstShare
  split
  · omega
  · split
    · exact proportion_le total (Nat.le_add_right needA needB)
    · exact shareAboveFloor_le total floorPercent needA needB

theorem split_of_ne_nil {a b : List ScoredEntry} (total floorPercent : Nat) (ha : a ≠ [])
    (hb : b ≠ []) :
    split total a b floorPercent =
      (firstShare total floorPercent (need a) (need b),
        total - firstShare total floorPercent (need a) (need b)) := by
  cases a with
  | nil => exact absurd rfl ha
  | cons x xs =>
      cases b with
      | nil => exact absurd rfl hb
      | cons y ys => rfl

theorem split_sum_le (total floorPercent : Nat) (a b : List ScoredEntry) :
    (split total a b floorPercent).1 + (split total a b floorPercent).2 ≤ total := by
  by_cases ha : a = []
  · subst ha
    cases b <;> simp [split]
  · by_cases hb : b = []
    · subst hb
      cases a <;> simp [split]
    · rw [split_of_ne_nil total floorPercent ha hb]
      have := firstShare_le total floorPercent (need a) (need b)
      simp only
      omega

section

variable {total : Nat} (bound : total < 2 ^ 64)
include bound

theorem firstShare_of_fits {needA needB : Nat} (floorPercent : Nat) (pos : 0 < needA + needB)
    (fits : needA + needB ≤ total) :
    firstShare total floorPercent needA needB = total * needA / (needA + needB) := by
  rw [firstShare, if_neg (by omega), if_pos fits]
  exact proportion_eq bound (Nat.le_add_right needA needB)

theorem firstShare_of_short {needA needB : Nat} (floorPercent : Nat)
    (short : total < needA + needB) :
    firstShare total floorPercent needA needB =
      total * min floorPercent 50 / 100 +
        (total - 2 * (total * min floorPercent 50 / 100)) * needA / (needA + needB) := by
  have floor : percentOf total (min floorPercent 50) = total * min floorPercent 50 / 100 :=
    percentOf_eq bound (by omega)
  rw [firstShare, if_neg (by omega), if_neg (by omega), shareAboveFloor, floor]
  congr 1
  exact proportion_eq (by omega) (Nat.le_add_right needA needB)

theorem floors_le (floorPercent : Nat) : 2 * (total * min floorPercent 50 / 100) ≤ total := by
  have h := two_percentOf_le total (Nat.min_le_right floorPercent 50)
  rwa [percentOf_eq bound (by omega)] at h

theorem firstShare_lt {needA needB : Nat} (floorPercent : Nat) (pos : 0 < total)
    (posB : 0 < needB) : firstShare total floorPercent needA needB < total := by
  have part : needA < needA + needB := Nat.lt_add_of_pos_right posB
  rcases Nat.lt_or_ge total (needA + needB) with short | fits
  · rw [firstShare_of_short bound floorPercent short]
    have floors := floors_le bound floorPercent
    generalize total * min floorPercent 50 / 100 = floor at floors ⊢
    rcases Nat.eq_zero_or_pos floor with rfl | some
    · simpa using quotient_lt pos part
    · have flex := quotient_le (total - 2 * floor) (Nat.le_of_lt part)
      generalize (total - 2 * floor) * needA / (needA + needB) = share at flex ⊢
      omega
  · rw [firstShare_of_fits bound floorPercent (by omega) fits]
    exact quotient_lt pos part

/-- The first section gets nothing only where the floor rounds to nothing and its part of the total
is less than a token. -/
theorem firstShare_eq_zero_iff {needA needB : Nat} (floorPercent : Nat) (posA : 0 < needA) :
    firstShare total floorPercent needA needB = 0 ↔
      total * min floorPercent 50 / 100 = 0 ∧ total * needA < needA + needB := by
  rcases Nat.lt_or_ge total (needA + needB) with short | fits
  · rw [firstShare_of_short bound floorPercent short, Nat.add_eq_zero_iff]
    refine and_congr_right ?_
    intro floor
    rw [floor, Nat.mul_zero, Nat.sub_zero, Nat.div_eq_zero_iff_lt (by omega)]
  · rw [firstShare_of_fits bound floorPercent (by omega) fits]
    have own : needA ≤ total * needA / (needA + needB) := le_quotient (by omega) fits
    have large : needA + needB ≤ total * needA := fits.trans (Nat.le_mul_of_pos_right total posA)
    constructor
    · intro none
      omega
    · rintro ⟨-, small⟩
      omega

theorem firstShare_swap (floorPercent needA needB : Nat) :
    firstShare total floorPercent needA needB + firstShare total floorPercent needB needA ≤ total ∧
    total ≤ firstShare total floorPercent needA needB +
      firstShare total floorPercent needB needA + 1 := by
  rcases Nat.eq_zero_or_pos (needA + needB) with none | pos
  · have none' : needB + needA = 0 := by omega
    simp only [firstShare, if_pos none, if_pos none']
    omega
  · rcases Nat.lt_or_ge total (needA + needB) with short | fits
    · rw [firstShare_of_short bound floorPercent short,
        firstShare_of_short bound floorPercent (Nat.add_comm needA needB ▸ short),
        Nat.add_comm needB needA]
      have floors := floors_le bound floorPercent
      have upper := quotients_le (total - 2 * (total * min floorPercent 50 / 100)) needA needB
      have lower := le_quotients (total - 2 * (total * min floorPercent 50 / 100)) pos
      omega
    · rw [firstShare_of_fits bound floorPercent pos fits,
        firstShare_of_fits bound floorPercent (Nat.add_comm needA needB ▸ pos)
          (Nat.add_comm needA needB ▸ fits), Nat.add_comm needB needA]
      exact ⟨quotients_le total needA needB, le_quotients total pos⟩

end

structure FairSplit (total floorPercent : Nat) (a b : List ScoredEntry) (shares : Nat × Nat) :
    Prop where
  both_empty : a = [] → b = [] → shares = (0, 0)
  first_empty : a = [] → b ≠ [] → shares = (0, total)
  second_empty : a ≠ [] → b = [] → shares = (total, 0)
  sum : a ≠ [] → b ≠ [] → shares.1 + shares.2 = total
  covers : a ≠ [] → b ≠ [] → need a + need b ≤ total → need a ≤ shares.1 ∧ need b ≤ shares.2
  guarantees : a ≠ [] → b ≠ [] → total < need a + need b →
    total * min floorPercent 50 / 100 ≤ shares.1 ∧ total * min floorPercent 50 / 100 ≤ shares.2
  exact_share : a ≠ [] → b ≠ [] → total < need a + need b →
    let floor : ℕ := total * min floorPercent 50 / 100
    (shares.1 : ℤ) = ⌊(floor + (total - 2 * floor) * need a / (need a + need b) : ℚ)⌋

theorem fair_split {total : Nat} (bound : total < 2 ^ 64) (floorPercent : Nat)
    (a b : List ScoredEntry) : FairSplit total floorPercent a b (split total a b floorPercent) where
  both_empty ha hb := by rw [ha, hb]; rfl
  first_empty ha hb := by
    subst ha
    cases b with
    | nil => exact absurd rfl hb
    | cons y ys => rfl
  second_empty ha hb := by
    subst hb
    cases a with
    | nil => exact absurd rfl ha
    | cons x xs => rfl
  sum ha hb := by
    rw [split_of_ne_nil total floorPercent ha hb]
    exact Nat.add_sub_cancel' (firstShare_le total floorPercent (need a) (need b))
  covers ha hb fits := by
    rw [split_of_ne_nil total floorPercent ha hb]
    rcases Nat.eq_zero_or_pos (need a + need b) with none | pos
    · simp only
      omega
    · have both := quotients_le total (need a) (need b)
      have first : need a ≤ total * need a / (need a + need b) := le_quotient pos fits
      have second : need b ≤ total * need b / (need a + need b) := le_quotient pos fits
      rw [firstShare_of_fits bound floorPercent pos fits]
      simp only
      omega
  guarantees ha hb short := by
    rw [split_of_ne_nil total floorPercent ha hb, firstShare_of_short bound floorPercent short]
    have floors := floors_le bound floorPercent
    have flex := quotient_le (total - 2 * (total * min floorPercent 50 / 100))
      (Nat.le_add_right (need a) (need b))
    generalize total * min floorPercent 50 / 100 = floor at floors flex ⊢
    generalize (total - 2 * floor) * need a / (need a + need b) = part at flex ⊢
    simp only
    omega
  exact_share ha hb short := by
    rw [split_of_ne_nil total floorPercent ha hb, firstShare_of_short bound floorPercent short]
    intro floor
    have flex : ((total - 2 * floor : ℕ) : ℚ) = total - 2 * floor := by
      rw [Nat.cast_sub (floors_le bound floorPercent)]
      push_cast
      rfl
    have quotient : ⌊(((total - 2 * floor) * need a : ℕ) : ℚ) / ((need a + need b : ℕ) : ℚ)⌋ =
        (((total - 2 * floor) * need a / (need a + need b) : ℕ) : ℤ) := by
      rw [Rat.floor_natCast_div_natCast]
      push_cast
      rfl
    rw [Nat.cast_mul, flex, Nat.cast_add (need a)] at quotient
    rw [Int.floor_natCast_add, quotient, Nat.cast_add]

theorem Checked.need_eq {entries : List ScoredEntry} (fits : Budget.need entries < 2 ^ 64) :
    Checked.need entries = some (Budget.need entries) := by
  induction entries with
  | nil => rfl
  | cons e es ih =>
      have sum : Budget.need (e :: es) = e.tokens + Budget.need es := rfl
      rw [Checked.need, ih (by omega), Option.bind_some, Checked.add, if_pos (by omega), sum]

theorem Checked.quotient_eq {value part whole : Nat} (bound : value < 2 ^ 64) (pos : 0 < whole)
    (h : part ≤ whole) (small : part < 2 ^ 64) :
    Checked.quotient value part whole = some (value * part / whole) := by
  have product : value * part < 2 ^ 128 := by
    calc value * part < 2 ^ 64 * 2 ^ 64 := Nat.mul_lt_mul'' bound small
      _ = 2 ^ 128 := by decide
  have result : value * part / whole < 2 ^ 64 := (quotient_le value h).trans_lt bound
  rw [Checked.quotient, if_pos ⟨Nat.ne_of_gt pos, product, result⟩]

theorem Checked.firstShare_eq {total needA needB : Nat} (bound : total < 2 ^ 64)
    (fits : needA + needB < 2 ^ 64) (floorPercent : Nat) :
    Checked.firstShare total floorPercent needA (needA + needB) =
      some (Budget.firstShare total floorPercent needA needB) := by
  rcases Nat.eq_zero_or_pos (needA + needB) with none | pos
  · simp only [Checked.firstShare, Budget.firstShare, if_pos none]
  · have part := Nat.le_add_right needA needB
    rcases Nat.lt_or_ge total (needA + needB) with short | enough
    · have floors := floors_le bound floorPercent
      have share := firstShare_le total floorPercent needA needB
      rw [firstShare_of_short bound floorPercent short] at share ⊢
      rw [Checked.firstShare, if_neg (by omega), if_neg (by omega), Checked.shareAboveFloor,
        Checked.quotient_eq bound (by omega) (by omega) (by omega)]
      simp only [Option.bind_eq_bind, Option.bind_some]
      rw [Checked.add, if_pos (by omega), Option.bind_some, Checked.sub, if_pos (by omega),
        Option.bind_some, ← Nat.two_mul,
        Checked.quotient_eq (by omega) pos part (by omega), Option.bind_some, Checked.add,
        if_pos (by omega)]
    · rw [firstShare_of_fits bound floorPercent pos enough, Checked.firstShare,
        if_neg (by omega), if_pos enough, Checked.quotient_eq bound pos part (by omega)]

theorem Checked.split_eq {total : Nat} (bound : total < 2 ^ 64) (floorPercent : Nat)
    {a b : List ScoredEntry} (fits : Budget.need a + Budget.need b < 2 ^ 64) :
    Checked.split total a b floorPercent = some (Budget.split total a b floorPercent) := by
  cases a with
  | nil => cases b <;> rfl
  | cons x xs =>
      cases b with
      | nil => rfl
      | cons y ys =>
          have share := firstShare_le total floorPercent (Budget.need (x :: xs))
            (Budget.need (y :: ys))
          rw [split_of_ne_nil total floorPercent (List.cons_ne_nil x xs) (List.cons_ne_nil y ys)]
          simp only [Checked.split, Option.bind_eq_bind]
          rw [Checked.need_eq (by omega), Option.bind_some, Checked.need_eq (by omega),
            Option.bind_some, Checked.add, if_pos fits, Option.bind_some]
          rw [Checked.firstShare_eq bound fits, Option.bind_some, Checked.sub, if_pos share,
            Option.bind_some]

theorem split_second_ne_zero {total : Nat} (bound : total < 2 ^ 64) (pos : 0 < total)
    (floorPercent : Nat) {a b : List ScoredEntry} (hb : b ≠ []) (posB : 0 < need b) :
    (split total a b floorPercent).2 ≠ 0 := by
  by_cases ha : a = []
  · rw [(fair_split bound floorPercent a b).first_empty ha hb]
    exact Nat.ne_of_gt pos
  · rw [split_of_ne_nil total floorPercent ha hb]
    have below : firstShare total floorPercent (need a) (need b) < total :=
      firstShare_lt bound floorPercent pos posB
    simp only
    omega

theorem split_first_eq_zero_iff {total : Nat} (bound : total < 2 ^ 64) (pos : 0 < total)
    (floorPercent : Nat) {a b : List ScoredEntry} (ha : a ≠ []) (posA : 0 < need a) :
    (split total a b floorPercent).1 = 0 ↔
      b ≠ [] ∧ total * min floorPercent 50 / 100 = 0 ∧ total * need a < need a + need b := by
  by_cases hb : b = []
  · rw [(fair_split bound floorPercent a b).second_empty ha hb]
    simp only [hb, ne_eq, not_true_eq_false, false_and, iff_false]
    exact Nat.ne_of_gt pos
  · rw [split_of_ne_nil total floorPercent ha hb]
    simp only [hb, ne_eq, not_false_eq_true, true_and]
    exact firstShare_eq_zero_iff bound floorPercent posA

theorem split_swap {total : Nat} (bound : total < 2 ^ 64) (floorPercent : Nat)
    (a b : List ScoredEntry) :
    (split total a b floorPercent).1 ≤ (split total b a floorPercent).2 ∧
    (split total b a floorPercent).2 ≤ (split total a b floorPercent).1 + 1 := by
  cases a with
  | nil => cases b <;> simp [split]
  | cons x xs =>
      cases b with
      | nil => simp [split]
      | cons y ys =>
          obtain ⟨upper, lower⟩ :=
            firstShare_swap bound floorPercent (need (x :: xs)) (need (y :: ys))
          rw [split_of_ne_nil total floorPercent (List.cons_ne_nil x xs) (List.cons_ne_nil y ys),
            split_of_ne_nil total floorPercent (List.cons_ne_nil y ys) (List.cons_ne_nil x xs)]
          simp only
          omega

/-- The split loses nothing to the width of words, keeps its promises, and favours the second of two
sections by at most a token. -/
theorem split_contract {total : Nat} (bound : total < 2 ^ 64) (floorPercent : Nat)
    {a b : List ScoredEntry} (fits : need a + need b < 2 ^ 64) :
    Checked.split total a b floorPercent = some (split total a b floorPercent) ∧
    FairSplit total floorPercent a b (split total a b floorPercent) ∧
    ((split total a b floorPercent).1 ≤ (split total b a floorPercent).2 ∧
      (split total b a floorPercent).2 ≤ (split total a b floorPercent).1 + 1) ∧
    (split total b a floorPercent).1 ≤ (split total a b floorPercent).2 ∧
    (split total a b floorPercent).2 ≤ (split total b a floorPercent).1 + 1 :=
  ⟨Checked.split_eq bound floorPercent fits, fair_split bound floorPercent a b,
    split_swap bound floorPercent a b, split_swap bound floorPercent b a⟩

def sample (tokens : Nat) : ScoredEntry := ⟨⟨⟨"", "", ""⟩, [], false⟩, Binary64.one, tokens⟩

theorem split_contract_widest :
    (2 ^ 64 - 3 < 2 ^ 64 ∧ need [sample (2 ^ 63)] + need [sample (2 ^ 63 - 1)] < 2 ^ 64) ∧
    Checked.split (2 ^ 64 - 3) [sample (2 ^ 63)] [sample (2 ^ 63 - 1)] (2 ^ 32 - 1) =
      some (2 ^ 63 - 2, 2 ^ 63 - 1) :=
  ⟨by decide, (split_contract (by decide) (2 ^ 32 - 1) (by decide)).1.trans (by decide)⟩

end Briefing.Budget
