import Briefing.Packet.Assembly

namespace Briefing

def Sources.knowing (sources : Sources) (decisions learnings : List Entry) : Sources :=
  { sources with decisions := decisions, learnings := learnings }

end Briefing

namespace Briefing.Packet

def throughTasks (settings : PacketSettings) (sources : Sources) (budget : Nat) : Nat :=
  foundationTokens settings sources + totalTokens (chosenTasks settings sources budget)

def throughConventions (settings : PacketSettings) (sources : Sources) (budget : Nat) : Nat :=
  throughTasks settings sources budget + totalTokens (chosenConventions settings sources budget)

def taskStage (settings : PacketSettings) (sources : Sources) (budget : Nat) : Packet :=
  (foundation settings sources budget).withTasks (chosenTasks settings sources budget)
    sources.tasks.length

def conventionStage (settings : PacketSettings) (sources : Sources) (budget : Nat) : Packet :=
  (taskStage settings sources budget).withConventions (chosenConventions settings sources budget)
    sources.conventions.length

def chosenKeywords (settings : Settings) (sources : Sources) (budget : Nat) : List String :=
  Keywords.extract settings.scoring (chosenTasks settings.packet sources budget)

def sections (settings : Settings) (now : Instant) (sources : Sources) (budget : Nat) :
    Budget.Section × Budget.Section :=
  knowledge settings now sources (chosenKeywords settings sources budget)
    (budget - throughConventions settings.packet sources budget)

def knowledgeStage (settings : Settings) (now : Instant) (sources : Sources) (budget : Nat) :
    Packet :=
  (conventionStage settings.packet sources budget).withKnowledge
    (sections settings now sources budget) sources

theorem foundationTokens_le_throughTasks (settings : PacketSettings) (sources : Sources)
    (budget : Nat) : foundationTokens settings sources ≤ throughTasks settings sources budget :=
  Nat.le_add_right _ _

theorem throughTasks_le_throughConventions (settings : PacketSettings) (sources : Sources)
    (budget : Nat) :
    throughTasks settings sources budget ≤ throughConventions settings sources budget :=
  Nat.le_add_right _ _

section

variable (settings : Settings) (now : Instant) (sources : Sources) (budget : Nat)

theorem assemble_cases :
    (budget ≤ foundationTokens settings.packet sources ∧
      assemble settings now sources budget = (foundation settings.packet sources budget).counted) ∨
    (foundationTokens settings.packet sources < budget ∧
      budget ≤ throughTasks settings.packet sources budget ∧
      assemble settings now sources budget = (taskStage settings.packet sources budget).counted) ∨
    (throughTasks settings.packet sources budget < budget ∧
      budget ≤ throughConventions settings.packet sources budget ∧
      assemble settings now sources budget =
        (conventionStage settings.packet sources budget).counted) ∨
    (throughConventions settings.packet sources budget < budget ∧
      assemble settings now sources budget =
        (knowledgeStage settings now sources budget).counted) := by
  unfold assemble staged
  simp only
  split
  · rename_i stop
    exact Or.inl ⟨stop, rfl⟩
  · rename_i reach
    split
    · rename_i stop
      exact Or.inr (Or.inl ⟨Nat.lt_of_not_le reach, stop, rfl⟩)
    · rename_i reach
      split
      · rename_i stop
        exact Or.inr (Or.inr (Or.inl ⟨Nat.lt_of_not_le reach, stop, rfl⟩))
      · rename_i reach
        exact Or.inr (Or.inr (Or.inr ⟨Nat.lt_of_not_le reach, rfl⟩))

theorem assemble_of_stages {motive : Packet → Prop}
    (opening : motive (foundation settings.packet sources budget).counted)
    (tasks : motive (taskStage settings.packet sources budget).counted)
    (conventions : motive (conventionStage settings.packet sources budget).counted)
    (knowledge : motive (knowledgeStage settings now sources budget).counted) :
    motive (assemble settings now sources budget) := by
  rcases assemble_cases settings now sources budget with
    ⟨-, same⟩ | ⟨-, -, same⟩ | ⟨-, -, same⟩ | ⟨-, same⟩
  · exact same ▸ opening
  · exact same ▸ tasks
  · exact same ▸ conventions
  · exact same ▸ knowledge

theorem assemble_of_le_throughConventions
    (stop : budget ≤ throughConventions settings.packet sources budget) :
    assemble settings now sources budget =
      (if budget ≤ foundationTokens settings.packet sources then
        foundation settings.packet sources budget
      else if budget ≤ throughTasks settings.packet sources budget then
        taskStage settings.packet sources budget
      else conventionStage settings.packet sources budget).counted := by
  have grows := foundationTokens_le_throughTasks settings.packet sources budget
  rcases assemble_cases settings now sources budget with
    ⟨first, same⟩ | ⟨reach, second, same⟩ | ⟨reach, -, same⟩ | ⟨reach, -⟩
  · rw [same, if_pos first]
  · rw [same, if_neg (by omega), if_pos second]
  · rw [same, if_neg (by omega), if_neg (by omega)]
  · omega

-- Up to the third tier a packet depends neither on the clock nor on what there is to know.
theorem assemble_knowing_of_le_throughConventions (later : Instant)
    (decisions learnings : List Entry)
    (stop : budget ≤ throughConventions settings.packet sources budget) :
    assemble settings later (sources.knowing decisions learnings) budget =
      assemble settings now sources budget := by
  have stopped := assemble_of_le_throughConventions settings later
    (sources.knowing decisions learnings) budget stop
  exact stopped.trans (assemble_of_le_throughConventions settings now sources budget stop).symm

theorem assemble_of_le_foundationTokens
    (stop : budget ≤ foundationTokens settings.packet sources) :
    assemble settings now sources budget = (foundation settings.packet sources budget).counted := by
  have later : foundationTokens settings.packet sources ≤
      throughConventions settings.packet sources budget :=
    Nat.le_trans (foundationTokens_le_throughTasks _ _ _) (throughTasks_le_throughConventions _ _ _)
  rw [assemble_of_le_throughConventions settings now sources budget (Nat.le_trans stop later),
    if_pos stop]

theorem assemble_of_le_throughTasks (reach : foundationTokens settings.packet sources < budget)
    (stop : budget ≤ throughTasks settings.packet sources budget) :
    assemble settings now sources budget = (taskStage settings.packet sources budget).counted := by
  have later := throughTasks_le_throughConventions settings.packet sources budget
  rw [assemble_of_le_throughConventions settings now sources budget (Nat.le_trans stop later),
    if_neg (Nat.not_le.mpr reach), if_pos stop]

theorem assemble_of_throughTasks_lt (reach : throughTasks settings.packet sources budget < budget)
    (stop : budget ≤ throughConventions settings.packet sources budget) :
    assemble settings now sources budget =
      (conventionStage settings.packet sources budget).counted := by
  have earlier := foundationTokens_le_throughTasks settings.packet sources budget
  rw [assemble_of_le_throughConventions settings now sources budget stop,
    if_neg (Nat.not_le.mpr (Nat.lt_of_le_of_lt earlier reach)), if_neg (Nat.not_le.mpr reach)]

theorem assemble_of_throughConventions_lt
    (reach : throughConventions settings.packet sources budget < budget) :
    assemble settings now sources budget = (knowledgeStage settings now sources budget).counted := by
  have grows := foundationTokens_le_throughTasks settings.packet sources budget
  have grows' := throughTasks_le_throughConventions settings.packet sources budget
  rcases assemble_cases settings now sources budget with
    ⟨stop, -⟩ | ⟨-, stop, -⟩ | ⟨-, stop, -⟩ | ⟨-, same⟩
  · omega
  · omega
  · omega
  · exact same

theorem length_tiers_eq_five :
    (assemble settings now sources budget).tiers.length = 5 ↔
      throughConventions settings.packet sources budget < budget := by
  constructor
  · intro five
    rcases assemble_cases settings now sources budget with
      ⟨-, same⟩ | ⟨-, -, same⟩ | ⟨-, -, same⟩ | ⟨reach, -⟩
    · rw [same] at five
      exact absurd five (by simp [counted, foundation])
    · rw [same] at five
      exact absurd five (by simp [counted, taskStage, withTasks, foundation])
    · rw [same] at five
      exact absurd five
        (by simp [counted, conventionStage, withConventions, taskStage, withTasks, foundation])
    · exact reach
  · intro reach
    rw [assemble_of_throughConventions_lt settings now sources budget reach]
    rfl

end

def openingTokens (p : Packet) : Nat :=
  totalTokens p.readOrder + totalTokens p.constitution + tokens p.instruction

def fixedTokens (p : Packet) : Nat :=
  p.openingTokens + totalTokens p.tasks + totalTokens p.conventions

def leftover (p : Packet) : Nat := p.budget - p.fixedTokens

def bodyTokens (p : Packet) : Nat := totalTokens p.decisions + totalTokens p.learnings

theorem emittedTokens_eq (p : Packet) :
    p.emittedTokens = p.fixedTokens + p.bodyTokens + totalTokens p.summaries := by
  simp only [emittedTokens, fixedTokens, openingTokens, bodyTokens]
  omega

def keywords (settings : Settings) (p : Packet) : List String :=
  Keywords.extract settings.scoring p.tasks

def rankedDecisions (settings : Settings) (now : Instant) (sources : Sources) (p : Packet) :
    List ScoredEntry :=
  Scoring.ranked settings.scoring (p.keywords settings) now sources.decisions

def rankedLearnings (settings : Settings) (now : Instant) (sources : Sources) (p : Packet) :
    List ScoredEntry :=
  Scoring.ranked settings.scoring (p.keywords settings) now sources.learnings

def shares (settings : Settings) (now : Instant) (sources : Sources) (p : Packet) : Nat × Nat :=
  Budget.split p.leftover (p.rankedDecisions settings now sources)
    (p.rankedLearnings settings now sources) settings.packet.splitFloorPercent

section

variable {settings : Settings} {now : Instant} {sources : Sources} {budget : Nat} {p : Packet}

theorem knowledge_of_five (same : assemble settings now sources budget = p)
    (five : p.tiers.length = 5) :
    p.leftover = budget - throughConventions settings.packet sources budget ∧
    sections settings now sources budget =
      (Budget.Section.fill (p.rankedDecisions settings now sources)
          (p.shares settings now sources).1 settings.packet.fullContentPercent,
        Budget.Section.fill (p.rankedLearnings settings now sources)
          (p.shares settings now sources).2 settings.packet.fullContentPercent) ∧
    p = (knowledgeStage settings now sources budget).counted := by
  subst same
  have reach := (length_tiers_eq_five settings now sources budget).mp five
  rw [assemble_of_throughConventions_lt settings now sources budget reach]
  exact ⟨rfl, rfl, rfl⟩

end

end Briefing.Packet
