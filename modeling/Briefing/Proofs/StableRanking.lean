import Briefing.Proofs.Ranking
import Briefing.Proofs.Stages
import Briefing.Proofs.TotalOrder

namespace Briefing

namespace Scoring

theorem descending_iff {es : List ScoredEntry} :
    Descending es ↔ es.Pairwise fun a b => ¬ a.score.Precedes b.score := by
  apply List.Pairwise.iff
  intro a b
  rw [Binary64.precedes_iff_rank_lt, Int.not_lt]
  simp [ranksBefore]

theorem tied_rank (x : Binary64) (es : List ScoredEntry) :
    tied x.rank es = es.filter fun e => e.score = x := by
  apply List.filter_congr
  intro e _
  rw [beq_eq_decide, decide_eq_decide]
  exact ⟨Binary64.rank_inj, congrArg Binary64.rank⟩

theorem tied_eq_of_scores {as bs : List ScoredEntry}
    (same : ∀ x : Binary64, (as.filter fun e => e.score = x) = bs.filter fun e => e.score = x)
    (rank : Int) : tied rank as = tied rank bs := by
  by_cases taken : ∃ x : Binary64, x.rank = rank
  · obtain ⟨x, rfl⟩ := taken
    rw [tied_rank, tied_rank, same]
  · have untied (es : List ScoredEntry) : tied rank es = [] := by
      apply List.filter_eq_nil_iff.mpr
      intro e _ ranked
      exact taken ⟨e.score, beq_iff_eq.mp ranked⟩
    rw [untied, untied]

section

variable (scoring : ScoringSettings) (keywords : List String) (now : Instant)

structure StableRanking (entries : List Entry) (ranking : List ScoredEntry) : Prop where
  paired : ranking.Perm
    (entries.map fun e => ⟨e, score scoring keywords now e, Briefing.tokens e.content⟩)
  descending : ranking.Pairwise fun a b => ¬ a.score.Precedes b.score
  stable : ∀ x : Binary64, (ranking.filter fun e => e.score = x).map ScoredEntry.entry =
    entries.filter fun e => score scoring keywords now e = x

structure Reordered (entries other : List Entry) : Prop where
  perm : other.Perm entries
  stable : ∀ x : Binary64, (other.filter fun e => score scoring keywords now e = x) =
    entries.filter fun e => score scoring keywords now e = x

theorem stableRanking_ranked (entries : List Entry) :
    StableRanking scoring keywords now entries (ranked scoring keywords now entries) where
  paired := List.mergeSort_perm _ ranksBefore
  descending := descending_iff.mp (descending_mergeSort _)
  stable := by
    intro x
    rw [← tied_rank, ranked, tied_mergeSort, tied_rank, List.filter_map, List.map_map]
    exact List.map_id _

variable {scoring keywords now} {entries : List Entry}

theorem StableRanking.filter_score {ranking : List ScoredEntry}
    (h : StableRanking scoring keywords now entries ranking) (x : Binary64) :
    (ranking.filter fun e => e.score = x) =
      (entries.filter fun e => score scoring keywords now e = x).map
        (scored scoring keywords now) := by
  have own : ∀ e ∈ ranking.filter fun e => e.score = x, scored scoring keywords now e.entry = e := by
    intro e he
    obtain ⟨entry, -, rfl⟩ := List.mem_map.mp (h.paired.subset (List.mem_filter.mp he).1)
    rfl
  rw [← h.stable x, List.map_map]
  exact ((List.map_congr_left own).trans (List.map_id _)).symm

theorem StableRanking.unique {as bs : List ScoredEntry}
    (ha : StableRanking scoring keywords now entries as)
    (hb : StableRanking scoring keywords now entries bs) : as = bs := by
  apply eq_of_tied_eq (descending_iff.mpr ha.descending) (descending_iff.mpr hb.descending)
  apply tied_eq_of_scores
  intro x
  rw [ha.filter_score, hb.filter_score]

theorem StableRanking.of_reordered {other : List Entry} {ranking : List ScoredEntry}
    (same : Reordered scoring keywords now entries other)
    (h : StableRanking scoring keywords now other ranking) :
    StableRanking scoring keywords now entries ranking where
  paired := h.paired.trans (same.perm.map _)
  descending := h.descending
  stable x := (h.stable x).trans (same.stable x)

theorem ranked_of_reordered {other : List Entry}
    (same : Reordered scoring keywords now entries other) :
    ranked scoring keywords now other = ranked scoring keywords now entries := by
  have moved := (stableRanking_ranked scoring keywords now other).of_reordered same
  exact moved.unique (stableRanking_ranked scoring keywords now entries)

end

end Scoring

namespace Packet

open Scoring

section

variable {settings : Settings} {now : Instant} {sources : Sources} {decisions learnings : List Entry}

theorem knowledge_knowing {keywords : List String}
    (sameD : Reordered settings.scoring keywords now sources.decisions decisions)
    (sameL : Reordered settings.scoring keywords now sources.learnings learnings)
    (remaining : Nat) :
    knowledge settings now (sources.knowing decisions learnings) keywords remaining =
      knowledge settings now sources keywords remaining := by
  simp only [knowledge, Sources.knowing, ranked_of_reordered sameD, ranked_of_reordered sameL]

theorem knowledgeStage_knowing {budget : Nat}
    (sameD : Reordered settings.scoring (chosenKeywords settings sources budget) now
      sources.decisions decisions)
    (sameL : Reordered settings.scoring (chosenKeywords settings sources budget) now
      sources.learnings learnings) :
    knowledgeStage settings now (sources.knowing decisions learnings) budget =
      knowledgeStage settings now sources budget := by
  have shown : sections settings now (sources.knowing decisions learnings) budget =
      sections settings now sources budget := knowledge_knowing sameD sameL _
  have conventions : conventionStage settings.packet (sources.knowing decisions learnings) budget =
      conventionStage settings.packet sources budget := rfl
  rw [knowledgeStage, knowledgeStage, shown, conventions]
  simp only [withKnowledge, Sources.knowing, sameD.perm.length_eq, sameL.perm.length_eq]

theorem assemble_knowing {budget : Nat} {p : Packet}
    (same : assemble settings now sources budget = p)
    (sameD : Reordered settings.scoring (p.keywords settings) now sources.decisions decisions)
    (sameL : Reordered settings.scoring (p.keywords settings) now sources.learnings learnings) :
    assemble settings now (sources.knowing decisions learnings) budget = p := by
  rcases Nat.lt_or_ge (throughConventions settings.packet sources budget) budget with reach | stop
  · have result := assemble_of_throughConventions_lt settings now sources budget reach
    have keywords : p.keywords settings = chosenKeywords settings sources budget := by
      rw [← same, result]
      rfl
    rw [keywords] at sameD sameL
    have stage := knowledgeStage_knowing sameD sameL
    rw [assemble_of_throughConventions_lt settings now (sources.knowing decisions learnings) budget
      reach, stage, ← result]
    exact same
  · rw [← same]
    exact assemble_knowing_of_le_throughConventions settings now sources budget now decisions
      learnings stop

end

end Packet

structure RanksStably (settings : Settings) (now : Instant) : Prop where
  ranking : ∀ keywords entries,
    Scoring.StableRanking settings.scoring keywords now entries
      (Scoring.ranked settings.scoring keywords now entries)
  only : ∀ keywords entries ranking,
    Scoring.StableRanking settings.scoring keywords now entries ranking →
      ranking = Scoring.ranked settings.scoring keywords now entries
  reordered : ∀ keywords entries other,
    Scoring.Reordered settings.scoring keywords now entries other →
      Scoring.ranked settings.scoring keywords now other =
        Scoring.ranked settings.scoring keywords now entries
  packet : ∀ sources budget decisions learnings p,
    Packet.assemble settings now sources budget = p →
    Scoring.Reordered settings.scoring (p.keywords settings) now sources.decisions decisions →
    Scoring.Reordered settings.scoring (p.keywords settings) now sources.learnings learnings →
      Packet.assemble settings now (sources.knowing decisions learnings) budget = p

theorem ranks_stably (settings : Settings) (now : Instant) : RanksStably settings now where
  ranking keywords entries := Scoring.stableRanking_ranked settings.scoring keywords now entries
  only keywords entries _ h :=
    h.unique (Scoring.stableRanking_ranked settings.scoring keywords now entries)
  reordered _ _ _ same := Scoring.ranked_of_reordered same
  packet _ _ _ _ _ same sameD sameL := Packet.assemble_knowing same sameD sameL

end Briefing
