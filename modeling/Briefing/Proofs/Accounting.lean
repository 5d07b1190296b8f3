import Briefing.Proofs.Filling
import Briefing.Proofs.Ranking
import Briefing.Proofs.Stages

namespace Briefing

def Sources.available (sources : Sources) : List Nat :=
  [sources.readOrder.length + sources.constitution.length + 1, sources.tasks.length,
    sources.conventions.length, sources.decisions.length, sources.learnings.length]

namespace Packet

def items (p : Packet) : List String :=
  p.readOrder ++ p.constitution ++ [p.instruction] ++ p.tasks ++ p.conventions ++ p.decisions ++
    p.learnings ++ p.summaries

theorem totalTokens_items (p : Packet) : totalTokens p.items = p.emittedTokens := by
  have one : totalTokens [p.instruction] = tokens p.instruction := rfl
  simp only [items, totalTokens_append, one, emittedTokens]

structure Balanced (p : Packet) : Prop where
  tokens : sumOver Tier.tokens p.tiers = totalTokens p.items
  included : sumOver Tier.included p.tiers = p.items.length
  within : ∀ t ∈ p.tiers, t.included ≤ t.total

theorem Balanced.extend {p q : Packet} (h : Balanced p) (added : List Tier) (shown : List String)
    (tiers : q.tiers = p.tiers ++ added) (items : q.items = p.items ++ shown)
    (cost : sumOver Tier.tokens added = totalTokens shown)
    (count : sumOver Tier.included added = shown.length)
    (within : ∀ t ∈ added, t.included ≤ t.total) : Balanced q where
  tokens := by rw [tiers, items, sumOver_append, totalTokens_append, h.tokens, cost]
  included := by rw [tiers, items, sumOver_append, List.length_append, h.included, count]
  within := by
    intro t ht
    rw [tiers] at ht
    rcases List.mem_append.mp ht with old | new
    · exact h.within t old
    · exact within t new

section

variable (settings : Settings) (now : Instant) (sources : Sources) (budget : Nat)

theorem balanced_foundation : Balanced (foundation settings.packet sources budget) where
  tokens := by
    rw [totalTokens_items]
    rfl
  included := by simp [foundation, sumOver, items, Nat.add_assoc]
  within := by
    intro t ht
    rw [List.mem_singleton.mp ht]

theorem balanced_taskStage : Balanced (taskStage settings.packet sources budget) := by
  refine (balanced_foundation settings sources budget).extend _
    (chosenTasks settings.packet sources budget) rfl ?_ rfl rfl ?_
  · simp [items, taskStage, withTasks, foundation]
  · intro t ht
    rw [List.mem_singleton.mp ht]
    exact (Budget.fit_prefix _ sources.tasks).length_le

theorem balanced_conventionStage : Balanced (conventionStage settings.packet sources budget) := by
  refine (balanced_taskStage settings sources budget).extend _
    (chosenConventions settings.packet sources budget) rfl ?_ rfl rfl ?_
  · simp [items, conventionStage, withConventions, taskStage, withTasks, foundation]
  · intro t ht
    rw [List.mem_singleton.mp ht]
    exact (Budget.fit_prefix _ sources.conventions).length_le

-- The titles of both sections are one list of the packet, but each is counted in its own tier.
theorem balanced_knowledgeStage : Balanced (knowledgeStage settings now sources budget) := by
  have base := balanced_conventionStage settings sources budget
  let shown := sections settings now sources budget
  refine base.extend _ (shown.1.bodies ++ shown.2.bodies ++ (shown.1.titles ++ shown.2.titles)) rfl
    ?_ ?_ ?_ ?_
  · simp [items, shown, knowledgeStage, withKnowledge, conventionStage, withConventions, taskStage,
      withTasks, foundation]
  · simp only [sumOver, sectionTier, Budget.Section.tokens, totalTokens_append, shown]
    omega
  · simp only [sumOver, sectionTier, Budget.Section.size, List.length_append, shown]
    omega
  · intro t ht
    rw [List.mem_cons, List.mem_singleton] at ht
    rcases ht with rfl | rfl
    · exact (Budget.Section.size_fill_le _ _ _).trans_eq (Scoring.length_ranked _ _ _ _)
    · exact (Budget.Section.size_fill_le _ _ _).trans_eq (Scoring.length_ranked _ _ _ _)

end

structure Accounted (sources : Sources) (p : Packet) : Prop where
  tier_tokens : sumOver Tier.tokens p.tiers = p.tokensUsed
  used : p.tokensUsed = totalTokens p.items
  tier_items : sumOver Tier.included p.tiers = p.items.length
  within : ∀ t ∈ p.tiers, t.included ≤ t.total
  totals : p.tiers.map Tier.total <+: sources.available

theorem accounted_counted {sources : Sources} {p : Packet} (h : Balanced p)
    (totals : p.tiers.map Tier.total <+: sources.available) : Accounted sources p.counted where
  tier_tokens := h.tokens.trans (totalTokens_items p)
  used := (totalTokens_items p).symm
  tier_items := h.included
  within := h.within
  totals := totals

theorem assemble_accounted (settings : Settings) (now : Instant) (sources : Sources)
    (budget : Nat) : Accounted sources (assemble settings now sources budget) := by
  refine assemble_of_stages (motive := Accounted sources) settings now sources budget ?_ ?_ ?_ ?_
  · exact accounted_counted (balanced_foundation settings sources budget) ⟨_, rfl⟩
  · exact accounted_counted (balanced_taskStage settings sources budget) ⟨_, rfl⟩
  · exact accounted_counted (balanced_conventionStage settings sources budget) ⟨_, rfl⟩
  · exact accounted_counted (balanced_knowledgeStage settings now sources budget) ⟨[], rfl⟩

end Packet

end Briefing
