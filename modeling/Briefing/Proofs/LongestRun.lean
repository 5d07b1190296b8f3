import Briefing.Proofs.Portions

namespace Briefing.Budget

theorem totalTokens_affordable_le (budget : Nat) (items : List String) :
    totalTokens (affordable budget items) ≤ budget := by
  induction items generalizing budget with
  | nil => exact Nat.zero_le _
  | cons item items ih =>
      rw [affordable]
      split
      · rename_i h
        have rest := ih (budget - tokens item)
        change tokens item + totalTokens (affordable (budget - tokens item) items) ≤ budget
        omega
      · exact Nat.zero_le _

theorem affordable_prefix (budget : Nat) (items : List String) :
    affordable budget items <+: items := by
  induction items generalizing budget with
  | nil => exact List.prefix_rfl
  | cons item items ih =>
      rw [affordable]
      split
      · exact List.cons_prefix_cons.mpr ⟨rfl, ih (budget - tokens item)⟩
      · exact List.nil_prefix

theorem affordable_eq_self {budget : Nat} {items : List String}
    (fits : totalTokens items ≤ budget) : affordable budget items = items := by
  induction items generalizing budget with
  | nil => rfl
  | cons item items ih =>
      have sum : totalTokens (item :: items) = tokens item + totalTokens items := rfl
      rw [affordable, if_pos (by omega), ih (by omega)]

theorem fit_eq_self {budget : Nat} {items : List String} (fits : totalTokens items ≤ budget) :
    fit budget items = items := by
  rw [fit, affordable_eq_self fits]
  cases items with
  | nil => rfl
  | cons item items => rfl

theorem fit_prefix (budget : Nat) (items : List String) : fit budget items <+: items := by
  unfold fit
  split
  · exact List.take_prefix 1 items
  · exact affordable_prefix budget items

theorem affordable_mono {budget larger : Nat} (h : budget ≤ larger) (items : List String) :
    affordable budget items <+: affordable larger items := by
  induction items generalizing budget larger with
  | nil => exact List.prefix_rfl
  | cons item items ih =>
      rw [affordable, affordable]
      split
      · rename_i fits
        rw [if_pos (fits.trans h)]
        exact List.cons_prefix_cons.mpr ⟨rfl, ih (Nat.sub_le_sub_right h (tokens item))⟩
      · exact List.nil_prefix

theorem fit_cons (budget : Nat) (item : String) (items : List String) :
    fit budget (item :: items) =
      item :: if tokens item ≤ budget then affordable (budget - tokens item) items else [] := by
  rw [fit, affordable]
  split_ifs with fits
  · rfl
  · rfl

theorem fit_mono {budget larger : Nat} (h : budget ≤ larger) (items : List String) :
    fit budget items <+: fit larger items := by
  cases items with
  | nil => exact List.prefix_rfl
  | cons item items =>
      rw [fit_cons, fit_cons, List.cons_prefix_cons]
      refine ⟨rfl, ?_⟩
      split
      · rename_i fits
        rw [if_pos (fits.trans h)]
        exact affordable_mono (Nat.sub_le_sub_right h (tokens item)) items
      · exact List.nil_prefix

theorem affordable_idem (budget : Nat) (items : List String) :
    affordable budget (affordable budget items) = affordable budget items :=
  affordable_eq_self (totalTokens_affordable_le budget items)

theorem fit_idem (budget : Nat) (items : List String) :
    fit budget (fit budget items) = fit budget items := by
  cases items with
  | nil => rfl
  | cons item items =>
      rw [fit_cons, fit_cons]
      by_cases fits : tokens item ≤ budget
      · simp only [if_pos fits, affordable_idem]
      · simp only [if_neg fits]

theorem totalTokens_fit_le (budget : Nat) (items : List String) :
    totalTokens (fit budget items) ≤ max budget (tokens (items.headD "")) := by
  have within := totalTokens_affordable_le budget items
  unfold fit
  split
  · cases items with
    | nil => exact Nat.zero_le _
    | cons item items =>
        have one : totalTokens ((item :: items).take 1) = tokens item := rfl
        rw [one]
        exact Nat.le_max_right budget (tokens item)
  · exact within.trans (Nat.le_max_left _ _)

theorem totalTokens_fit_percentOf_le (percent budget : Nat) (items : List String) :
    totalTokens (fit (percentOf budget percent) items) ≤
      max (percent * budget / 100) (tokens (items.headD "")) := by
  have cap := percentOf_le budget percent
  rw [Nat.mul_comm] at cap
  exact (totalTokens_fit_le _ items).trans (max_le_max_right _ cap)

theorem prefix_affordable {budget : Nat} {run items : List String} (initial : run <+: items)
    (cost : totalTokens run ≤ budget) : run <+: affordable budget items := by
  induction items generalizing budget run with
  | nil => exact initial
  | cons item items ih =>
      cases run with
      | nil => exact List.nil_prefix
      | cons first run =>
          obtain ⟨rfl, rest⟩ := List.cons_prefix_cons.mp initial
          have sum : totalTokens (first :: run) = tokens first + totalTokens run := rfl
          rw [affordable, if_pos (by omega)]
          apply List.cons_prefix_cons.mpr
          exact ⟨rfl, ih rest (by omega)⟩

theorem fit_of_first {budget : Nat} {first : String} (fits : tokens first ≤ budget)
    (rest : List String) : fit budget (first :: rest) = affordable budget (first :: rest) := by
  rw [fit_cons, affordable, if_pos fits, if_pos fits]

theorem fit_eq_nil_iff {budget : Nat} {items : List String} :
    fit budget items = [] ↔ items = [] := by
  cases items with
  | nil => exact Iff.rfl
  | cons item items => simp [fit_cons]

/-- The first items as far as a budget pays for them, but always one of them. -/
structure LongestRuns (items : List String) (chosen : Nat → List String) : Prop where
  initial : ∀ budget, chosen budget <+: items
  longest : ∀ budget first rest, items = first :: rest → tokens first ≤ budget →
    totalTokens (chosen budget) ≤ budget ∧
      ∀ run, run <+: items → totalTokens run ≤ budget → run <+: chosen budget
  forced : ∀ budget first rest, items = first :: rest → budget < tokens first →
    chosen budget = [first]
  empty : ∀ budget, chosen budget = [] ↔ items = []
  grows : ∀ budget larger, budget ≤ larger → chosen budget <+: chosen larger
  again : ∀ budget, fit budget (chosen budget) = chosen budget

theorem fit_longestRuns (items : List String) :
    LongestRuns items fun budget => fit budget items where
  initial budget := fit_prefix budget items
  longest := by
    rintro budget first rest rfl fits
    rw [fit_of_first fits]
    refine ⟨totalTokens_affordable_le budget _, ?_⟩
    intro run initial cost
    exact prefix_affordable initial cost
  forced := by
    rintro budget first rest rfl large
    rw [fit_cons, if_neg (Nat.not_le.mpr large)]
  empty _ := fit_eq_nil_iff
  grows _ _ h := fit_mono h items
  again budget := fit_idem budget items

end Briefing.Budget
