import Briefing.Proofs.Filling
import Briefing.Proofs.LiveScores
import Briefing.Proofs.Ranking
import Briefing.Proofs.Shares
import Briefing.Proofs.Stages

namespace Briefing

def entryTokens (entries : List Entry) : Nat := sumOver (fun e => tokens e.content) entries

def liveEntries (ranking : List ScoredEntry) : List Entry :=
  (ranking.map ScoredEntry.entry).filter fun e => !e.superseded

theorem entryTokens_pos {entries : List Entry} (some : entries ≠ [])
    (written : ∀ e ∈ entries, e.content ≠ "") : 0 < entryTokens entries := by
  obtain ⟨e, he⟩ := List.exists_mem_of_ne_nil entries some
  have one : 0 < tokens e.content := tokens_pos (written e he)
  have all := le_sumOver (fun (e : Entry) => tokens e.content) he
  exact Nat.lt_of_lt_of_le one all

namespace Scoring

variable (keywords : List String) (now : Instant) (entries : List Entry)

theorem need_ranked (scoring : ScoringSettings) :
    Budget.need (ranked scoring keywords now entries) = entryTokens entries := by
  have sorted := List.mergeSort_perm (entries.map (scored scoring keywords now)) ranksBefore
  exact (sumOver_perm ScoredEntry.tokens sorted).trans (sumOver_map _ _ entries)

theorem liveEntries_ranked_perm (scoring : ScoringSettings) :
    (liveEntries (ranked scoring keywords now entries)).Perm
      (entries.filter fun e => !e.superseded) :=
  (map_entry_ranked_perm scoring keywords now entries).filter _

theorem liveEntries_ranked {settings : Settings} (valid : settings.Valid) :
    liveEntries (ranked settings.scoring keywords now entries) =
      ((ranked settings.scoring keywords now entries).filter fun e => !e.score.isZero).map
        ScoredEntry.entry := by
  rw [liveEntries, List.filter_map]
  refine congrArg (List.map ScoredEntry.entry) (List.filter_congr ?_)
  intro e he
  obtain ⟨x, -, rfl⟩ := (mem_ranked settings.scoring keywords now).mp he
  exact congrArg not (isZero_score valid keywords now x).symm

end Scoring

namespace Packet

open Budget (Form bodiesOf titlesOf)

structure Labelled (settings : Settings) (now : Instant) (sources : Sources) (p : Packet)
    (decisions learnings : List (Entry × Form)) : Prop where
  live_decisions : (p.shares settings now sources).1 ≠ 0 →
    decisions.map Prod.fst = liveEntries (p.rankedDecisions settings now sources)
  live_learnings : (p.shares settings now sources).2 ≠ 0 →
    learnings.map Prod.fst = liveEntries (p.rankedLearnings settings now sources)
  no_decisions : (p.shares settings now sources).1 = 0 → decisions = []
  no_learnings : (p.shares settings now sources).2 = 0 → learnings = []
  decision_bodies : p.decisions = bodiesOf decisions
  learning_bodies : p.learnings = bodiesOf learnings
  summaries : p.summaries = titlesOf decisions ++ titlesOf learnings

structure Covered (settings : Settings) (now : Instant) (sources : Sources) (p : Packet) : Prop where
  labelled : ∃ decisions learnings, Labelled settings now sources p decisions learnings
  all_decisions : (liveEntries (p.rankedDecisions settings now sources)).Perm
    (sources.decisions.filter fun e => !e.superseded)
  all_learnings : (liveEntries (p.rankedLearnings settings now sources)).Perm
    (sources.learnings.filter fun e => !e.superseded)
  learnings_served : sources.learnings ≠ [] → (p.shares settings now sources).2 ≠ 0
  decisions_starved : sources.decisions ≠ [] →
    ((p.shares settings now sources).1 = 0 ↔
      sources.learnings ≠ [] ∧
      p.leftover * settings.packet.splitFloorPercent / 100 = 0 ∧
      p.leftover * entryTokens sources.decisions <
        entryTokens sources.decisions + entryTokens sources.learnings)

section

variable {settings : Settings} (now : Instant) {sources : Sources}

theorem second_share_ne_zero {p : Packet} (bound : p.leftover < 2 ^ 64) (pos : 0 < p.leftover)
    (some : sources.learnings ≠ []) (written : ∀ e ∈ sources.learnings, e.content ≠ "") :
    (p.shares settings now sources).2 ≠ 0 := by
  refine Budget.split_second_ne_zero bound pos _ ?_ ?_
  · intro none
    exact some ((Scoring.ranked_eq_nil _ _ _).mp none)
  · rw [rankedLearnings, Scoring.need_ranked]
    exact entryTokens_pos some written

variable (valid : settings.Valid)
include valid

theorem exists_labelled {budget : Nat} {p : Packet}
    (same : assemble settings now sources budget = p) (five : p.tiers.length = 5) :
    ∃ decisions learnings, Labelled settings now sources p decisions learnings := by
  obtain ⟨-, shown, result⟩ := knowledge_of_five same five
  obtain ⟨decisions, liveD, noneD, filledD⟩ := Budget.Section.fill_labelled
    (p.rankedDecisions settings now sources) (p.shares settings now sources).1
    settings.packet.fullContentPercent
  obtain ⟨learnings, liveL, noneL, filledL⟩ := Budget.Section.fill_labelled
    (p.rankedLearnings settings now sources) (p.shares settings now sources).2
    settings.packet.fullContentPercent
  rw [filledD, filledL] at shown
  refine ⟨decisions, learnings, ?_, ?_, noneD, noneL, ?_, ?_, ?_⟩
  · intro some
    exact (liveD some).trans (Scoring.liveEntries_ranked _ _ _ valid).symm
  · intro some
    exact (liveL some).trans (Scoring.liveEntries_ranked _ _ _ valid).symm
  · rw [result]
    exact congrArg (fun s => s.1.bodies) shown
  · rw [result]
    exact congrArg (fun s => s.2.bodies) shown
  · rw [result]
    exact congrArg (fun s => s.1.titles ++ s.2.titles) shown

theorem first_share_eq_zero_iff {p : Packet} (bound : p.leftover < 2 ^ 64) (pos : 0 < p.leftover)
    (some : sources.decisions ≠ []) (written : ∀ e ∈ sources.decisions, e.content ≠ "") :
    (p.shares settings now sources).1 = 0 ↔
      sources.learnings ≠ [] ∧
      p.leftover * settings.packet.splitFloorPercent / 100 = 0 ∧
      p.leftover * entryTokens sources.decisions <
        entryTokens sources.decisions + entryTokens sources.learnings := by
  have needD : Budget.need (p.rankedDecisions settings now sources) =
      entryTokens sources.decisions := Scoring.need_ranked _ _ _ _
  have needL : Budget.need (p.rankedLearnings settings now sources) =
      entryTokens sources.learnings := Scoring.need_ranked _ _ _ _
  have listed : p.rankedDecisions settings now sources ≠ [] := by
    intro none
    exact some ((Scoring.ranked_eq_nil _ _ _).mp none)
  have nilL : p.rankedLearnings settings now sources = [] ↔ sources.learnings = [] :=
    Scoring.ranked_eq_nil _ _ _
  have floor : min settings.packet.splitFloorPercent 50 = settings.packet.splitFloorPercent :=
    Nat.min_eq_left valid.splitFloor
  have posD : 0 < Budget.need (p.rankedDecisions settings now sources) := by
    rw [needD]
    exact entryTokens_pos some written
  have h := Budget.split_first_eq_zero_iff bound pos settings.packet.splitFloorPercent
    (b := p.rankedLearnings settings now sources) listed posD
  rwa [floor, needD, needL, ne_eq, nilL] at h

end

theorem assemble_covered {settings : Settings} (accepted : settings.fault? = none) (now : Instant)
    {sources : Sources} (written : ∀ e ∈ sources.decisions ++ sources.learnings, e.content ≠ "")
    {budget : Nat} (bound : budget < 2 ^ 64)
    (five : (assemble settings now sources budget).tiers.length = 5) :
    Covered settings now sources (assemble settings now sources budget) := by
  have valid := Settings.fault?_eq_none_iff.mp accepted
  have reach := (length_tiers_eq_five settings now sources budget).mp five
  generalize same : assemble settings now sources budget = p at five ⊢
  obtain ⟨left, -, -⟩ := knowledge_of_five same five
  have pos : 0 < p.leftover := by omega
  have below : p.leftover < 2 ^ 64 := by omega
  refine ⟨exists_labelled now valid same five, Scoring.liveEntries_ranked_perm _ _ _ _,
    Scoring.liveEntries_ranked_perm _ _ _ _, ?_, ?_⟩
  · intro some
    refine second_share_ne_zero now below pos some ?_
    intro e he
    exact written e (List.mem_append_right _ he)
  · intro some
    refine first_share_eq_zero_iff now valid below pos some ?_
    intro e he
    exact written e (List.mem_append_left _ he)

def starved : Sources :=
  { decisions := [Entry.ofLines ⟨"2026-02-19-120000", "2026-02-19", "Choice"⟩
      ["## [2026-02-19-120000] Choice"]]
    learnings := [Entry.ofLines ⟨"2026-02-19-130000", "2026-02-19", "Lesson"⟩
      ["## [2026-02-19-130000] Lesson"]] }

theorem assemble_covered_starved :
    (Settings.terse.fault? = none ∧
      (∀ e ∈ starved.decisions ++ starved.learnings, e.content ≠ "") ∧ 3 < 2 ^ 64 ∧
      (assemble Settings.terse ⟨0, 0⟩ starved 3).tiers.length = 5) ∧
    (assemble Settings.terse ⟨0, 0⟩ starved 3).decisions = [] := by
  have written : ∀ e ∈ starved.decisions ++ starved.learnings, e.content ≠ "" := by
    decide +kernel
  have reach : throughConventions Settings.terse.packet starved 3 < 3 := by decide +kernel
  have five := (length_tiers_eq_five Settings.terse ⟨0, 0⟩ starved 3).mpr reach
  have covered := assemble_covered Settings.fault?_terse ⟨0, 0⟩ written (by decide) five
  have left : (assemble Settings.terse ⟨0, 0⟩ starved 3).leftover = 1 := by
    rw [(knowledge_of_five rfl five).1]
    decide +kernel
  have none :
      ((assemble Settings.terse ⟨0, 0⟩ starved 3).shares Settings.terse ⟨0, 0⟩ starved).1 = 0 := by
    refine (covered.decisions_starved (by decide)).mpr ⟨by decide, ?_, ?_⟩
    · rw [left]
      decide
    · rw [left]
      decide +kernel
  obtain ⟨decisions, learnings, labelled⟩ := covered.labelled
  refine ⟨⟨Settings.fault?_terse, written, by decide, five⟩, ?_⟩
  rw [labelled.decision_bodies, labelled.no_decisions none]
  rfl

end Packet

end Briefing
