import Briefing.Proofs.Filling
import Briefing.Proofs.Ranking
import Briefing.Proofs.Stages
import Briefing.Proofs.Validity

namespace Briefing

def Sources.live (sources : Sources) : Sources :=
  { sources with
    decisions := sources.decisions.filter fun e => !e.superseded
    learnings := sources.learnings.filter fun e => !e.superseded }

def Tier.masked (t : Tier) : Tier :=
  if t.name = "decisions" ∨ t.name = "learnings" then { t with total := 0 } else t

namespace Packet

def masked (p : Packet) : Packet := { p with tiers := p.tiers.map Tier.masked }

theorem masked_sectionTier {name : String} (h : name = "decisions" ∨ name = "learnings")
    (s : Budget.Section) (total : Nat) :
    (sectionTier name s total).masked = ⟨name, s.tokens, s.size, 0⟩ := by
  simp [sectionTier, Tier.masked, h]

theorem masked_withKnowledge_iff (base : Packet) (shown shown' : Budget.Section × Budget.Section)
    (sources sources' : Sources) :
    (base.withKnowledge shown sources).counted.masked =
      (base.withKnowledge shown' sources').counted.masked ↔ shown = shown' := by
  obtain ⟨⟨bodiesD, titlesD⟩, ⟨bodiesL, titlesL⟩⟩ := shown
  obtain ⟨⟨bodiesD', titlesD'⟩, ⟨bodiesL', titlesL'⟩⟩ := shown'
  have first := fun s n => masked_sectionTier (Or.inl rfl : "decisions" = "decisions" ∨ _) s n
  have second := fun s n => masked_sectionTier (Or.inr rfl : _ ∨ "learnings" = "learnings") s n
  constructor
  · intro same
    have decisions : bodiesD = bodiesD' := congrArg Packet.decisions same
    have learnings : bodiesL = bodiesL' := congrArg Packet.learnings same
    have summaries : titlesD ++ titlesL = titlesD' ++ titlesL' := congrArg Packet.summaries same
    have tiers := congrArg Packet.tiers same
    simp only [masked, counted, withKnowledge, List.map_append, List.map_cons, List.map_nil, first,
      second, List.append_cancel_left_eq, List.cons.injEq, Tier.mk.injEq, Budget.Section.size,
      true_and, and_true] at tiers
    obtain ⟨⟨-, sizes⟩, -⟩ := tiers
    subst decisions learnings
    obtain ⟨rfl, rfl⟩ := List.append_inj summaries (Nat.add_left_cancel sizes)
    rfl
  · rintro ⟨⟩
    simp only [masked, counted, withKnowledge, emittedTokens, List.map_append, List.map_cons,
      List.map_nil, first, second]

theorem learnings_masked_assemble {settings : Settings} {sources : Sources} {budget : Nat}
    (reach : throughConventions settings.packet sources budget < budget) (now : Instant) :
    (assemble settings now sources budget).masked.learnings =
      (sections settings now sources budget).2.bodies := by
  rw [assemble_of_throughConventions_lt settings now sources budget reach]
  rfl

section

variable (settings : Settings) (now : Instant) (sources : Sources) (budget : Nat)

def liveSections (p : Packet) (shares : Nat × Nat) : Budget.Section × Budget.Section :=
  (Budget.Section.fill (p.rankedDecisions settings now sources.live) shares.1
      settings.packet.fullContentPercent,
    Budget.Section.fill (p.rankedLearnings settings now sources.live) shares.2
      settings.packet.fullContentPercent)

def SharesAgree (p : Packet) : Prop :=
  p.liveSections settings now sources (p.shares settings now sources) =
    p.liveSections settings now sources (p.shares settings now sources.live)

theorem fill_ranked_live (keywords : List String) (entries : List Entry) (share percent : Nat) :
    Budget.Section.fill
        (Scoring.ranked settings.scoring keywords now (entries.filter fun e => !e.superseded))
        share percent =
      Budget.Section.fill (Scoring.ranked settings.scoring keywords now entries) share percent := by
  rw [Scoring.ranked_filter]
  refine Budget.Section.fill_filter ?_ share percent
  intro e he dead
  obtain ⟨x, -, rfl⟩ := (Scoring.mem_ranked settings.scoring keywords now).mp he
  have superseded : x.superseded = true := by simpa [Scoring.scored] using dead
  simp [Scoring.scored, Scoring.score, superseded, Binary64.isZero, Binary64.zero]

theorem sections_eq_liveSections (five : (assemble settings now sources budget).tiers.length = 5) :
    sections settings now sources budget =
      (assemble settings now sources budget).liveSections settings now sources
        ((assemble settings now sources budget).shares settings now sources) := by
  rw [(knowledge_of_five rfl five).2.1]
  exact Prod.ext (fill_ranked_live settings now _ _ _ _).symm
    (fill_ranked_live settings now _ _ _ _).symm

theorem sections_live_eq_liveSections
    (five : (assemble settings now sources budget).tiers.length = 5) :
    sections settings now sources.live budget =
      (assemble settings now sources budget).liveSections settings now sources
        ((assemble settings now sources budget).shares settings now sources.live) := by
  have reach := (length_tiers_eq_five settings now sources budget).mp five
  have five' := (length_tiers_eq_five settings now sources.live budget).mpr reach
  obtain ⟨left, -, result⟩ := knowledge_of_five rfl five
  obtain ⟨left', shown', result'⟩ := knowledge_of_five rfl five'
  generalize assemble settings now sources budget = p at left result ⊢
  generalize assemble settings now sources.live budget = q at left' shown' result'
  have keywords : q.keywords settings = p.keywords settings := by rw [result, result']; rfl
  have remaining : q.leftover = p.leftover := left'.trans left.symm
  rw [shown']
  simp only [liveSections, shares, rankedDecisions, rankedLearnings, keywords, remaining]

def crowded : Sources :=
  { decisions := [Entry.ofLines ⟨"2026-02-19-120000", "2026-02-19", "Old choice"⟩
      ["## [2026-02-19-120000] Old choice", "~~Superseded~~"]]
    learnings := [Entry.ofLines ⟨"2026-02-19-130000", "2026-02-19", "Lesson"⟩
      ["## [2026-02-19-130000] Lesson"]] }

/-- Superseded entries change a packet only by their part in the sharing of the budget, and exactly
where that changes what a section shows. -/
theorem masked_live_iff :
    (assemble settings now sources budget).masked =
        (assemble settings now sources.live budget).masked ↔
      ((assemble settings now sources budget).tiers.length = 5 →
        SharesAgree settings now sources (assemble settings now sources budget)) := by
  rcases Nat.lt_or_ge (throughConventions settings.packet sources budget) budget with reach | stop
  · have five := (length_tiers_eq_five settings now sources budget).mpr reach
    have agree : SharesAgree settings now sources (assemble settings now sources budget) ↔
        sections settings now sources budget = sections settings now sources.live budget := by
      rw [sections_eq_liveSections settings now sources budget five,
        sections_live_eq_liveSections settings now sources budget five, SharesAgree]
    rw [agree, imp_iff_right five,
      assemble_of_throughConventions_lt settings now sources budget reach,
      assemble_of_throughConventions_lt settings now sources.live budget reach]
    exact masked_withKnowledge_iff _ _ _ _ _
  · have same : assemble settings now sources budget = assemble settings now sources.live budget :=
      (assemble_knowing_of_le_throughConventions settings now sources budget now
        sources.live.decisions sources.live.learnings stop).symm
    constructor
    · intro _ five
      exact absurd ((length_tiers_eq_five settings now sources budget).mp five)
        (Nat.not_lt.mpr stop)
    · intro _
      exact congrArg masked same

end

/-- The need of a superseded decision leaves too little for the body of a learning. -/
theorem masked_live_ne :
    ¬ ∀ (settings : Settings) (now : Instant) (sources : Sources) (budget : Nat),
      settings.fault? = none →
        (assemble settings now sources budget).masked =
          (assemble settings now sources.live budget).masked := by
  intro agree
  have same := congrArg Packet.learnings
    (agree Settings.terse ⟨1771502400, 0⟩ crowded 14 Settings.fault?_terse)
  have all : (sections Settings.terse ⟨1771502400, 0⟩ crowded 14).2.bodies = [] := by
    simp only [sections, knowledge, Scoring.ranked]
    simp only [crowded, List.map_cons, List.map_nil, List.mergeSort_singleton]
    decide +kernel
  have alive : (sections Settings.terse ⟨1771502400, 0⟩ crowded.live 14).2.bodies ≠ [] := by
    have decisions : crowded.live.decisions = [] := by decide +kernel
    have learnings : crowded.live.learnings = crowded.learnings := by decide +kernel
    simp only [sections, knowledge, Scoring.ranked, decisions, learnings]
    simp only [crowded, List.map_cons, List.map_nil, List.mergeSort_singleton, List.mergeSort_nil]
    decide +kernel
  rw [learnings_masked_assemble (by decide +kernel), learnings_masked_assemble (by decide +kernel),
    all] at same
  exact alive same.symm

end Packet

end Briefing
