import Briefing.Proofs.Filling
import Briefing.Proofs.KeywordExtraction
import Briefing.Proofs.Stages
import Briefing.Proofs.Validity

namespace Briefing

def Sources.offering (sources : Sources) (tasks conventions : List String) : Sources :=
  { sources with tasks := tasks, conventions := conventions }

def Tier.exhausted (t : Tier) : Tier :=
  if t.name = "tasks" ∨ t.name = "conventions" then { t with total := t.included } else t

namespace Packet

def exhausted (p : Packet) : Packet := { p with tiers := p.tiers.map Tier.exhausted }

section

variable (settings : Settings) (now : Instant) (sources : Sources) (budget : Nat)

theorem chosenTasks_offering (conventions : List String) :
    chosenTasks settings.packet
        (sources.offering (chosenTasks settings.packet sources budget) conventions) budget =
      chosenTasks settings.packet sources budget :=
  Budget.fit_idem _ sources.tasks

theorem chosenConventions_offering (tasks : List String) :
    chosenConventions settings.packet
        (sources.offering tasks (chosenConventions settings.packet sources budget)) budget =
      chosenConventions settings.packet sources budget :=
  Budget.fit_idem _ sources.conventions

theorem throughTasks_offering (conventions : List String) :
    throughTasks settings.packet
        (sources.offering (chosenTasks settings.packet sources budget) conventions) budget =
      throughTasks settings.packet sources budget :=
  congrArg (foundationTokens settings.packet sources + totalTokens ·)
    (chosenTasks_offering settings sources budget conventions)

theorem throughConventions_offering :
    throughConventions settings.packet
        (sources.offering (chosenTasks settings.packet sources budget)
          (chosenConventions settings.packet sources budget)) budget =
      throughConventions settings.packet sources budget := by
  rw [throughConventions, throughTasks_offering, chosenConventions_offering, throughConventions]

theorem foundation_exhausted :
    (foundation settings.packet sources budget).exhausted =
      foundation settings.packet sources budget := by
  simp [exhausted, foundation, Tier.exhausted]

theorem taskStage_offering (conventions : List String) :
    taskStage settings.packet
        (sources.offering (chosenTasks settings.packet sources budget) conventions) budget =
      (taskStage settings.packet sources budget).exhausted := by
  rw [taskStage, chosenTasks_offering]
  simp [exhausted, taskStage, withTasks, foundation, Tier.exhausted, Sources.offering,
    foundationTokens]

theorem conventionStage_offering :
    conventionStage settings.packet
        (sources.offering (chosenTasks settings.packet sources budget)
          (chosenConventions settings.packet sources budget)) budget =
      (conventionStage settings.packet sources budget).exhausted := by
  rw [conventionStage, taskStage_offering, chosenConventions_offering]
  simp [exhausted, conventionStage, withConventions, Tier.exhausted, Sources.offering]

theorem sections_offering :
    sections settings now
        (sources.offering (chosenTasks settings.packet sources budget)
          (chosenConventions settings.packet sources budget)) budget =
      sections settings now sources budget := by
  rw [sections, throughConventions_offering, chosenKeywords, chosenTasks_offering]
  rfl

theorem knowledgeStage_offering :
    knowledgeStage settings now
        (sources.offering (chosenTasks settings.packet sources budget)
          (chosenConventions settings.packet sources budget)) budget =
      (knowledgeStage settings now sources budget).exhausted := by
  rw [knowledgeStage, conventionStage_offering, sections_offering]
  simp [exhausted, knowledgeStage, withKnowledge, sectionTier, Tier.exhausted, Sources.offering]

theorem exhausted_counted (p : Packet) : p.counted.exhausted = p.exhausted.counted := rfl

theorem assemble_offering {p : Packet} (same : assemble settings now sources budget = p) :
    assemble settings now (sources.offering p.tasks p.conventions) budget = p.exhausted := by
  rcases assemble_cases settings now sources budget with
    ⟨stop, result⟩ | ⟨reach, stop, result⟩ | ⟨reach, stop, result⟩ | ⟨reach, result⟩
  · obtain rfl := result.symm.trans same
    refine (assemble_of_le_foundationTokens settings now (sources.offering [] []) budget
      stop).trans ?_
    rw [exhausted_counted, foundation_exhausted]
    rfl
  · obtain rfl := result.symm.trans same
    have stop' := stop.trans_eq (throughTasks_offering settings sources budget []).symm
    refine (assemble_of_le_throughTasks settings now
      (sources.offering (chosenTasks settings.packet sources budget) []) budget reach stop').trans ?_
    rw [exhausted_counted, taskStage_offering]
  · obtain rfl := result.symm.trans same
    have reach' := (throughTasks_offering settings sources budget
      (chosenConventions settings.packet sources budget)).trans_lt reach
    have stop' := stop.trans_eq (throughConventions_offering settings sources budget).symm
    refine (assemble_of_throughTasks_lt settings now _ budget reach' stop').trans ?_
    rw [exhausted_counted, conventionStage_offering]
  · obtain rfl := result.symm.trans same
    have reach' := (throughConventions_offering settings sources budget).trans_lt reach
    refine (assemble_of_throughConventions_lt settings now _ budget reach').trans ?_
    rw [exhausted_counted, knowledgeStage_offering]

end

/-- Tasks and conventions that did not get into a packet are nowhere in it, but for the totals of
their tiers: not in the keywords, and so not in the ranking, the shares and what is shown of them. -/
structure Traceless (settings : Settings) (now : Instant) (sources : Sources) (budget : Nat)
    (p : Packet) : Prop where
  chosen_alone : assemble settings now (sources.offering p.tasks p.conventions) budget = p.exhausted
  unchosen : ∀ tasks conventions q,
    assemble settings now (sources.offering tasks conventions) budget = q →
      q.tasks = p.tasks → q.conventions = p.conventions → q.exhausted = p.exhausted
  knowledge : p.tiers.length = 5 → ∀ shown,
    Packet.knowledge settings now { decisions := sources.decisions, learnings := sources.learnings }
        (Keywords.extract settings.scoring p.tasks) p.leftover = shown →
      p.decisions = shown.1.bodies ∧ p.learnings = shown.2.bodies ∧
        p.summaries = shown.1.titles ++ shown.2.titles

theorem assemble_traceless (settings : Settings) (now : Instant) (sources : Sources)
    (budget : Nat) :
    Traceless settings now sources budget (assemble settings now sources budget) := by
  generalize same : assemble settings now sources budget = p
  have alone := assemble_offering settings now sources budget same
  refine ⟨alone, ?_, ?_⟩
  · intro tasks conventions q other sameTasks sameConventions
    have alone' := assemble_offering settings now (sources.offering tasks conventions) budget other
    rw [sameTasks, sameConventions] at alone'
    exact alone'.symm.trans alone
  · intro five shown result
    obtain ⟨-, drawn, whole⟩ := knowledge_of_five same five
    have drawn : sections settings now sources budget = shown := drawn.trans result
    rw [whole, ← drawn]
    exact ⟨rfl, rfl, rfl⟩

theorem tasks_assemble (settings : Settings) (now : Instant) (sources : Sources) (budget : Nat) :
    (assemble settings now sources budget).tasks =
      if budget ≤ foundationTokens settings.packet sources then []
      else chosenTasks settings.packet sources budget := by
  have grows := foundationTokens_le_throughTasks settings.packet sources budget
  have grows' := throughTasks_le_throughConventions settings.packet sources budget
  rcases assemble_cases settings now sources budget with
    ⟨stop, same⟩ | ⟨reach, -, same⟩ | ⟨reach, -, same⟩ | ⟨reach, same⟩
  · rw [same, if_pos stop]
    rfl
  · rw [same, if_neg (by omega)]
    rfl
  · rw [same, if_neg (by omega)]
    rfl
  · rw [same, if_neg (by omega)]
    rfl

theorem chosenTasks_mono {settings : PacketSettings} (part : settings.taskPercent ≤ 100)
    (sources : Sources) {budget larger : Nat} (h : budget ≤ larger) (bound : larger < 2 ^ 64) :
    chosenTasks settings sources budget <+: chosenTasks settings sources larger :=
  Budget.fit_mono (Budget.percentOf_mono h bound part) sources.tasks

theorem assemble_keeps_tasks {settings : Settings} (part : settings.packet.taskPercent ≤ 100)
    (now : Instant) (sources : Sources) {budget larger : Nat} (h : budget ≤ larger)
    (bound : larger < 2 ^ 64) :
    (assemble settings now sources budget).tasks <+: (assemble settings now sources larger).tasks ∧
      (assemble settings now sources budget).keywords settings <+:
        (assemble settings now sources larger).keywords settings := by
  have tasks : (assemble settings now sources budget).tasks <+:
      (assemble settings now sources larger).tasks := by
    rw [tasks_assemble, tasks_assemble]
    split
    · exact List.nil_prefix
    · rename_i reach
      rw [if_neg fun stop => reach (h.trans stop)]
      exact chosenTasks_mono part sources h bound
  exact ⟨tasks, Keywords.extract_prefix settings.scoring tasks⟩

/-- The smaller budget has no room even for the first task, and the larger one for the first two. -/
theorem assemble_keeps_tasks_forced :
    let sources : Sources :=
      { tasks := ["- [ ] Rewrite the reader", "- [ ] Rewrite the writer", "- [ ] Rest"] }
    let small := assemble Settings.terse ⟨0, 0⟩ sources 6
    let large := assemble Settings.terse ⟨0, 0⟩ sources 32
    (Settings.terse.packet.taskPercent ≤ 100 ∧ 6 ≤ 32 ∧ 32 < 2 ^ 64) ∧
      (small.tasks = sources.tasks.take 1 ∧ large.tasks = sources.tasks.take 2) ∧
      small.tasks <+: large.tasks ∧
      small.keywords Settings.terse <+: large.keywords Settings.terse := by
  have part : Settings.terse.packet.taskPercent ≤ 100 := by decide
  refine ⟨⟨part, by decide, by decide⟩, ⟨by decide +kernel, by decide +kernel⟩, ?_⟩
  exact assemble_keeps_tasks part ⟨0, 0⟩ _ (by decide) (by decide)

end Packet

end Briefing
