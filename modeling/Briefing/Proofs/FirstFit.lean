import Briefing.Proofs.Filling

namespace Briefing.Budget

def inForm (form : Form) (labels : List (ScoredEntry × Form)) : List ScoredEntry :=
  (labels.filter fun l => l.2 = form).map Prod.fst

/-- Each entry that has a score gets one label, and its body is refused exactly where it would
exceed the cap on top of the bodies before it. -/
structure FirstFit (cap : Nat) (es : List ScoredEntry) (labels : List (ScoredEntry × Form)) :
    Prop where
  each_once : labels.map Prod.fst = es.filter fun e => !e.score.isZero
  within : need (inForm .body labels) ≤ cap
  refused : ∀ earlier e form later, labels = earlier ++ (e, form) :: later →
    (form = .title ↔ cap < need (inForm .body earlier) + e.tokens)

theorem Form.fitting_of_le {budget : Nat} {e : ScoredEntry} (fits : e.tokens ≤ budget) :
    fitting budget e = .body := if_pos fits

theorem Form.fitting_of_lt {budget : Nat} {e : ScoredEntry} (large : budget < e.tokens) :
    fitting budget e = .title := if_neg (Nat.not_le.mpr large)

theorem Form.eq_fitting_iff {form : Form} {budget : Nat} {e : ScoredEntry} :
    form = fitting budget e ↔ (form = .title ↔ budget < e.tokens) := by
  rw [fitting]
  cases form with
  | body => simp
  | title => simp

theorem Form.cost_fitting_le (budget : Nat) (e : ScoredEntry) :
    (fitting budget e).cost e ≤ budget := by
  rcases Nat.lt_or_ge budget e.tokens with large | fits
  · rw [fitting_of_lt large]
    exact Nat.zero_le budget
  · rw [fitting_of_le fits]
    exact fits

theorem need_body_cons (e : ScoredEntry) (form : Form) (labels : List (ScoredEntry × Form)) :
    need (inForm .body ((e, form) :: labels)) = form.cost e + need (inForm .body labels) := by
  cases form with
  | body => rfl
  | title => exact (Nat.zero_add _).symm

section

variable {cap : Nat} {e : ScoredEntry} {es : List ScoredEntry} {labels : List (ScoredEntry × Form)}

theorem firstFit_dead (dead : e.score.isZero = true) :
    FirstFit cap (e :: es) labels ↔ FirstFit cap es labels := by
  have skip : (e :: es).filter (fun e => !e.score.isZero) = es.filter fun e => !e.score.isZero :=
    List.filter_cons_of_neg (by simp [dead])
  constructor
  · intro h
    exact ⟨h.each_once.trans skip, h.within, h.refused⟩
  · intro h
    exact ⟨h.each_once.trans skip.symm, h.within, h.refused⟩

theorem firstFit_live {form : Form} (live : e.score.isZero = false) :
    FirstFit cap (e :: es) ((e, form) :: labels) ↔
      form = Form.fitting cap e ∧ FirstFit (cap - form.cost e) es labels := by
  have keep : (e :: es).filter (fun e => !e.score.isZero) =
      e :: es.filter fun e => !e.score.isZero := List.filter_cons_of_pos (by simp [live])
  have start : need (inForm .body []) + e.tokens = e.tokens := Nat.zero_add e.tokens
  constructor
  · intro h
    have within := h.within
    have once := h.each_once
    have first := h.refused [] e form labels rfl
    rw [need_body_cons] at within
    rw [keep] at once
    rw [start] at first
    refine ⟨Form.eq_fitting_iff.mpr first, (List.cons.inj once).2, by omega, ?_⟩
    rintro earlier x other later rfl
    rw [h.refused ((e, form) :: earlier) x other later rfl, need_body_cons]
    omega
  · rintro ⟨rfl, h⟩
    have within := h.within
    have paid := Form.cost_fitting_le cap e
    refine ⟨?_, ?_, ?_⟩
    · rw [keep, List.map_cons, h.each_once]
    · rw [need_body_cons]
      omega
    · intro earlier x other later same
      rcases List.cons_eq_append_iff.mp same with ⟨rfl, first⟩ | ⟨earlier', rfl, rest⟩
      · obtain ⟨rfl, rfl⟩ := Prod.mk.inj (List.cons.inj first).1
        rw [start]
        exact Form.eq_fitting_iff.mp rfl
      · rw [h.refused earlier' x other later rest, need_body_cons]
        omega

end

theorem firstFit_iff {cap : Nat} {es : List ScoredEntry} {labels : List (ScoredEntry × Form)} :
    FirstFit cap es labels ↔ labels = Section.labelling cap es := by
  induction es generalizing cap labels with
  | nil =>
      constructor
      · intro h
        exact List.map_eq_nil_iff.mp h.each_once
      · rintro rfl
        exact ⟨rfl, Nat.zero_le cap, by simp [Section.labelling]⟩
  | cons e es ih =>
      rw [Section.labelling]
      split
      · rename_i dead
        rw [firstFit_dead dead]
        exact ih
      · rename_i live
        have live : e.score.isZero = false := Bool.eq_false_of_not_eq_true live
        constructor
        · intro h
          have once := h.each_once
          rw [List.filter_cons_of_pos (by simp [live])] at once
          obtain ⟨⟨x, form⟩, rest, rfl, rfl, -⟩ := List.map_eq_cons_iff.mp once
          obtain ⟨fitting, tail⟩ := (firstFit_live live).mp h
          rw [← fitting, ih.mp tail]
        · rintro rfl
          exact (firstFit_live live).mpr ⟨rfl, ih.mpr rfl⟩

theorem labelled_of_pos {es : List ScoredEntry} {budget fullPercent : Nat} (some : 0 < budget)
    (bound : budget < 2 ^ 64) (full : fullPercent ≤ 100) :
    Section.labelled es budget fullPercent =
      Section.labelling (budget * fullPercent / 100) es := by
  rw [Section.labelled, if_neg (Nat.ne_of_gt some), percentOf_eq bound full]

theorem fill_firstFit (es : List ScoredEntry) {budget fullPercent : Nat} (some : 0 < budget)
    (bound : budget < 2 ^ 64) (full : fullPercent ≤ 100) :
    (∃! labels, FirstFit (budget * fullPercent / 100) es labels) ∧
    (∀ labels, FirstFit (budget * fullPercent / 100) es labels →
      Section.fill es budget fullPercent = Section.shown labels) ∧
    Section.fill (es.filter fun e => !e.score.isZero) budget fullPercent =
      Section.fill es budget fullPercent := by
  refine ⟨?_, ?_, ?_⟩
  · exact ⟨Section.labelling _ es, firstFit_iff.mpr rfl, fun other h => firstFit_iff.mp h⟩
  · intro labels h
    rw [Section.fill_eq_shown, labelled_of_pos some bound full, firstFit_iff.mp h]
  · apply Section.fill_filter
    intro e _ dead
    simpa using dead

def contended : List ScoredEntry :=
  [⟨Entry.ofLines ⟨"2026-02-19-120000", "2026-02-19", "Long"⟩ ["## [2026-02-19-120000] Long"],
    Binary64.one, 7⟩,
   ⟨Entry.ofLines ⟨"2026-02-19-130000", "2026-02-19", "Dead"⟩ ["~~Superseded~~"],
    Binary64.zero.neg, 4⟩,
   ⟨Entry.ofLines ⟨"2026-02-19-140000", "2026-02-19", "Short"⟩ ["## [2026-02-19-140000] Short"],
    Binary64.one, 4⟩]

theorem fill_firstFit_contended :
    (0 < 8 ∧ 8 < 2 ^ 64 ∧ 80 ≤ 100) ∧
    (∃! labels, FirstFit 6 contended labels) ∧
    Section.fill contended 8 80 = ⟨["## [2026-02-19-140000] Short"], ["Long"]⟩ := by
  obtain ⟨only, fill, -⟩ := fill_firstFit contended (by decide : 0 < 8) (by decide)
    (by decide : 80 ≤ 100)
  refine ⟨by decide, only, ?_⟩
  rw [fill (Section.labelling 6 contended) (firstFit_iff.mpr rfl)]
  decide +kernel

def Promotes (fewer more : List (ScoredEntry × Form)) : Prop :=
  fewer = more ∨ ∃ earlier e later later',
    fewer = earlier ++ (e, .title) :: later ∧ more = earlier ++ (e, .body) :: later'

theorem Promotes.cons {fewer more : List (ScoredEntry × Form)} (l : ScoredEntry × Form)
    (h : Promotes fewer more) : Promotes (l :: fewer) (l :: more) := by
  rcases h with rfl | ⟨earlier, e, later, later', rfl, rfl⟩
  · exact Or.inl rfl
  · exact Or.inr ⟨l :: earlier, e, later, later', rfl, rfl⟩

theorem FirstFit.tokens_le_of_body {cap : Nat} {es : List ScoredEntry}
    {labels : List (ScoredEntry × Form)} (h : FirstFit cap es labels) {e : ScoredEntry}
    (shown : (e, .body) ∈ labels) : e.tokens ≤ cap := by
  obtain ⟨earlier, later, split⟩ := List.append_of_mem shown
  have taken : ¬ cap < need (inForm .body earlier) + e.tokens := by
    rw [← h.refused earlier e .body later split]
    exact Form.noConfusion
  omega

theorem Section.pairwise_labelling (budget : Nat) (es : List ScoredEntry) :
    (labelling budget es).Pairwise fun x y =>
      x.1.tokens ≤ y.1.tokens → y.2 = .body → x.2 = .body := by
  induction es generalizing budget with
  | nil => exact List.Pairwise.nil
  | cons e es ih =>
      rw [labelling]
      split
      · exact ih budget
      · apply List.Pairwise.cons _ (ih _)
        -- Whatever a later body leaves of the budget, this entry came when no less was left.
        rintro ⟨y, form⟩ later cheaper rfl
        have affordable := (firstFit_iff.mpr rfl).tokens_le_of_body later
        exact Form.fitting_of_le (cheaper.trans (affordable.trans (Nat.sub_le budget _)))

theorem Section.promotes_labelling {budget larger : Nat} (h : budget ≤ larger)
    (es : List ScoredEntry) : Promotes (labelling budget es) (labelling larger es) := by
  -- As long as both runs do the same, the larger one stays ahead by as much as it started with.
  induction es generalizing budget larger with
  | nil => exact Or.inl rfl
  | cons e es ih =>
      rw [labelling, labelling]
      split
      · exact ih h
      · rcases Nat.lt_or_ge larger e.tokens with large | room
        · rw [Form.fitting_of_lt large, Form.fitting_of_lt (h.trans_lt large)]
          exact (ih h).cons (e, .title)
        · rw [Form.fitting_of_le room]
          rcases Nat.lt_or_ge budget e.tokens with small | fits
          · rw [Form.fitting_of_lt small]
            exact Or.inr ⟨[], e, _, _, rfl, rfl⟩
          · rw [Form.fitting_of_le fits]
            exact (ih (Nat.sub_le_sub_right h e.tokens)).cons (e, .body)

structure RankOrdered (es : List ScoredEntry) (fullPercent : Nat)
    (labels : Nat → List (ScoredEntry × Form)) : Prop where
  filled : ∀ budget, Section.fill es budget fullPercent = Section.shown (labels budget)
  first_fit : ∀ budget, 0 < budget → budget < 2 ^ 64 →
    FirstFit (budget * fullPercent / 100) es (labels budget)
  no_inversion : ∀ budget, (labels budget).Pairwise fun x y =>
    x.1.tokens ≤ y.1.tokens → y.2 = .body → x.2 = .body
  promotes : ∀ budget larger, 0 < budget → budget ≤ larger → larger < 2 ^ 64 →
    Promotes (labels budget) (labels larger)

theorem fill_rankOrdered (es : List ScoredEntry) {fullPercent : Nat} (full : fullPercent ≤ 100) :
    RankOrdered es fullPercent fun budget => Section.labelled es budget fullPercent where
  filled budget := Section.fill_eq_shown es budget fullPercent
  first_fit := by
    intro budget some bound
    exact firstFit_iff.mpr (labelled_of_pos some bound full)
  no_inversion := by
    intro budget
    unfold Section.labelled
    split
    · exact List.Pairwise.nil
    · exact Section.pairwise_labelling _ es
  promotes := by
    intro budget larger some h bound
    rw [labelled_of_pos some (h.trans_lt bound) full, labelled_of_pos (some.trans_le h) bound full]
    exact Section.promotes_labelling (Nat.div_le_div_right (Nat.mul_le_mul_right fullPercent h)) es

/-- A larger budget can take its body from an entry, but only for the sake of one before it. -/
theorem fill_rankOrdered_contended :
    80 ≤ 100 ∧
    Promotes (Section.labelled contended 8 80) (Section.labelled contended 9 80) ∧
    (Section.labelled contended 8 80).map Prod.snd = [.title, .body] ∧
    (Section.labelled contended 9 80).map Prod.snd = [.body, .title] := by
  have ordered := fill_rankOrdered contended (by decide : 80 ≤ 100)
  refine ⟨by decide, ?_, by decide +kernel, by decide +kernel⟩
  exact ordered.promotes 8 9 (by decide) (by decide) (by decide)

end Briefing.Budget
