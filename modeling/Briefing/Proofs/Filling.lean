import Briefing.Proofs.LongestRun

namespace Briefing.Budget

namespace Section

theorem totalTokens_take_le {es : List ScoredEntry}
    (exact : ∀ e ∈ es, e.tokens = Briefing.tokens e.entry.content) (budget : Nat) :
    totalTokens (take budget es).bodies ≤ budget := by
  induction es generalizing budget with
  | nil => exact Nat.zero_le _
  | cons e es ih =>
      have later := ih fun x hx => exact x (List.mem_cons_of_mem e hx)
      have cost := exact e List.mem_cons_self
      rw [take]
      split
      · exact later budget
      · split
        · have rest := later (budget - e.tokens)
          change Briefing.tokens e.entry.content + totalTokens (take (budget - e.tokens) es).bodies
            ≤ budget
          omega
        · exact later budget

theorem totalTokens_fill_le {es : List ScoredEntry}
    (exact : ∀ e ∈ es, e.tokens = Briefing.tokens e.entry.content) (budget fullPercent : Nat) :
    totalTokens (fill es budget fullPercent).bodies ≤ budget * fullPercent / 100 := by
  unfold fill
  split
  · exact Nat.zero_le _
  · exact (totalTokens_take_le exact _).trans (percentOf_le budget fullPercent)

theorem size_take_le (budget : Nat) (es : List ScoredEntry) :
    (take budget es).size ≤ es.length := by
  induction es generalizing budget with
  | nil => exact Nat.le_refl 0
  | cons e es ih =>
      have skipped := ih budget
      have taken := ih (budget - e.tokens)
      simp only [size] at skipped taken
      rw [take]
      split
      · simp only [size, List.length_cons]
        omega
      · split <;> simp only [size, List.length_cons] <;> omega

theorem size_fill_le (es : List ScoredEntry) (budget fullPercent : Nat) :
    (fill es budget fullPercent).size ≤ es.length := by
  unfold fill
  split
  · exact Nat.zero_le _
  · exact size_take_le _ es

theorem take_eq_bodies {budget : Nat} {es : List ScoredEntry} (fits : need es ≤ budget) :
    take budget es =
      ⟨(es.filter fun e => !e.score.isZero).map fun e => e.entry.content, []⟩ := by
  induction es generalizing budget with
  | nil => rfl
  | cons e es ih =>
      have sum : need (e :: es) = e.tokens + need es := rfl
      rw [take]
      split
      · rename_i dead
        rw [List.filter_cons_of_neg (by simp [dead])]
        exact ih (by omega)
      · rename_i live
        rw [List.filter_cons_of_pos (by simpa using live), if_pos (by omega), ih (by omega)]
        rfl

theorem fill_eq_bodies {es : List ScoredEntry} {budget fullPercent : Nat}
    (written : es ≠ [] → 0 < need es) (fits : need es ≤ percentOf budget fullPercent) :
    fill es budget fullPercent =
      ⟨(es.filter fun e => !e.score.isZero).map fun e => e.entry.content, []⟩ := by
  unfold fill
  split
  · rename_i nothing
    have free : need es = 0 := by
      rw [nothing] at fits
      simpa [percentOf, narrow] using fits
    by_cases listed : es = []
    · rw [listed]
      rfl
    · exact absurd free (Nat.ne_of_gt (written listed))
  · exact take_eq_bodies fits

theorem take_filter {keep : ScoredEntry → Bool} {es : List ScoredEntry}
    (dead : ∀ e ∈ es, keep e = false → e.score.isZero = true) (budget : Nat) :
    take budget (es.filter keep) = take budget es := by
  induction es generalizing budget with
  | nil => rfl
  | cons e es ih =>
      have later := ih fun x hx => dead x (List.mem_cons_of_mem e hx)
      cases kept : keep e with
      | false =>
          rw [List.filter_cons_of_neg (by simp [kept]), take,
            if_pos (dead e List.mem_cons_self kept)]
          exact later budget
      | true =>
          rw [List.filter_cons_of_pos kept, take, take, later budget, later (budget - e.tokens)]

theorem fill_filter {keep : ScoredEntry → Bool} {es : List ScoredEntry}
    (dead : ∀ e ∈ es, keep e = false → e.score.isZero = true) (budget fullPercent : Nat) :
    fill (es.filter keep) budget fullPercent = fill es budget fullPercent := by
  simp only [fill, take_filter dead]

end Section

inductive Form where
  | body
  | title
  deriving DecidableEq, Repr

def bodiesOf : List (Entry × Form) → List String
  | [] => []
  | (e, .body) :: labels => e.content :: bodiesOf labels
  | (_, .title) :: labels => bodiesOf labels

def titlesOf : List (Entry × Form) → List String
  | [] => []
  | (_, .body) :: labels => titlesOf labels
  | (e, .title) :: labels => e.title :: titlesOf labels

def Form.fitting (budget : Nat) (e : ScoredEntry) : Form := if e.tokens ≤ budget then .body else .title

def Form.cost (e : ScoredEntry) : Form → Nat
  | .body => e.tokens
  | .title => 0

namespace Section

def labelling (budget : Nat) : List ScoredEntry → List (ScoredEntry × Form)
  | [] => []
  | e :: es =>
      if e.score.isZero then labelling budget es
      else (e, Form.fitting budget e) :: labelling (budget - (Form.fitting budget e).cost e) es

def shown (labels : List (ScoredEntry × Form)) : Section :=
  let entries := labels.map fun (e, form) => (e.entry, form)
  ⟨bodiesOf entries, titlesOf entries⟩

def labelled (es : List ScoredEntry) (budget fullPercent : Nat) : List (ScoredEntry × Form) :=
  if budget = 0 then [] else labelling (percentOf budget fullPercent) es

theorem take_eq_shown (budget : Nat) (es : List ScoredEntry) :
    take budget es = shown (labelling budget es) := by
  induction es generalizing budget with
  | nil => rfl
  | cons e es ih =>
      rw [take, labelling, Form.fitting]
      split
      · exact ih budget
      · split
        · rw [ih (budget - e.tokens)]
          rfl
        · rw [ih budget]
          rfl

theorem fill_eq_shown (es : List ScoredEntry) (budget fullPercent : Nat) :
    fill es budget fullPercent = shown (labelled es budget fullPercent) := by
  unfold fill labelled
  split
  · rfl
  · exact take_eq_shown _ es

theorem map_fst_labelling (budget : Nat) (es : List ScoredEntry) :
    (labelling budget es).map Prod.fst = es.filter fun e => !e.score.isZero := by
  induction es generalizing budget with
  | nil => rfl
  | cons e es ih =>
      rw [labelling]
      split
      · rename_i dead
        rw [List.filter_cons_of_neg (by simp [dead])]
        exact ih budget
      · rename_i live
        rw [List.filter_cons_of_pos (by simpa using live), List.map_cons, ih]

/-- A section shows each entry that has a score once and in order, as a body or as a title. -/
theorem fill_labelled (es : List ScoredEntry) (budget fullPercent : Nat) :
    ∃ labels : List (Entry × Form),
      (budget ≠ 0 →
        labels.map Prod.fst = (es.filter fun e => !e.score.isZero).map ScoredEntry.entry) ∧
      (budget = 0 → labels = []) ∧
      fill es budget fullPercent = ⟨bodiesOf labels, titlesOf labels⟩ := by
  refine ⟨_, ?_, ?_, fill_eq_shown es budget fullPercent⟩
  · intro some
    rw [labelled, if_neg some, ← map_fst_labelling (percentOf budget fullPercent), List.map_map,
      List.map_map]
    rfl
  · intro none
    rw [labelled, if_pos none]
    rfl

end Section

end Briefing.Budget
