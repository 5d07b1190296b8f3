import Briefing.Proofs.ReportLines
import Briefing.Proofs.Stages

namespace Briefing.Packet

structure Staged (sources : Sources) (instruction : String) (budget : Nat)
    (tasks conventions : List String) (p : Packet) : Prop where
  same_read_order : p.readOrder = sources.readOrder
  same_constitution : p.constitution = sources.constitution
  same_instruction : p.instruction = instruction
  names : p.tiers.map Tier.name = Tier.names.take p.tiers.length
  lengths : p.tiers.length = 1 ∨ p.tiers.length = 2 ∨ p.tiers.length = 3 ∨ p.tiers.length = 5
  foundation_only : p.tiers.length = 1 ↔ budget ≤ p.openingTokens
  through_tasks : p.tiers.length = 2 ↔
    p.openingTokens < budget ∧ budget ≤ p.openingTokens + totalTokens tasks
  through_conventions : p.tiers.length = 3 ↔
    p.openingTokens + totalTokens tasks < budget ∧
      budget ≤ p.openingTokens + totalTokens tasks + totalTokens conventions
  all_tiers : p.tiers.length = 5 ↔
    p.openingTokens + totalTokens tasks + totalTokens conventions < budget
  chosen_tasks : p.tasks = if 2 ≤ p.tiers.length then tasks else []
  chosen_conventions : p.conventions = if 3 ≤ p.tiers.length then conventions else []
  no_knowledge : p.tiers.length ≠ 5 → p.decisions = [] ∧ p.learnings = [] ∧ p.summaries = []
  report : Text.lines p.tierReport =
    p.budgetNote :: cells "tier" "tokens" "items" :: p.tiers.map tierNote ++
      if p.tiers.length < 5 then [skipNote (5 - p.tiers.length)] else []
  skipped : ∀ count, skipNote count ∈ Text.lines p.tierReport ↔
    p.tiers.length < 5 ∧ count = 5 - p.tiers.length

section

variable {p : Packet} (names : p.tiers.map Tier.name <+: Tier.names)
include names

theorem name_mem_of_names : ∀ t ∈ p.tiers, t.name ∈ Tier.names := by
  intro t ht
  exact names.subset (List.mem_map_of_mem ht)

theorem lines_tierReport_of_names :
    Text.lines p.tierReport =
      p.budgetNote :: cells "tier" "tokens" "items" :: p.tiers.map tierNote ++
        if p.tiers.length < 5 then [skipNote (5 - p.tiers.length)] else [] := by
  have five : Tier.names.length = 5 := rfl
  rw [lines_tierReport (name_mem_of_names names), reportLines, skippedTiers, five]
  by_cases all : 5 ≤ p.tiers.length
  · rw [if_pos (by omega), if_neg (by omega)]
  · rw [if_neg (by omega), if_pos (by omega)]

theorem skipNote_mem_of_names (count : Nat) :
    skipNote count ∈ Text.lines p.tierReport ↔
      p.tiers.length < 5 ∧ count = 5 - p.tiers.length := by
  have five : Tier.names.length = 5 := rfl
  rw [skipNote_mem_lines_iff (name_mem_of_names names), skippedTiers, five]
  omega

end

theorem names_assemble (settings : Settings) (now : Instant) (sources : Sources) (budget : Nat) :
    (assemble settings now sources budget).tiers.map Tier.name <+: Tier.names := by
  refine assemble_of_stages (motive := fun p => p.tiers.map Tier.name <+: Tier.names)
    settings now sources budget ?_ ?_ ?_ ?_
  · exact ⟨["tasks", "conventions", "decisions", "learnings"], rfl⟩
  · exact ⟨["conventions", "decisions", "learnings"], rfl⟩
  · exact ⟨["decisions", "learnings"], rfl⟩
  · exact ⟨[], rfl⟩

theorem staged_of_place {sources : Sources} {instruction : String} {budget : Nat}
    {tasks conventions : List String} {p : Packet}
    (opening : p.readOrder = sources.readOrder ∧ p.constitution = sources.constitution ∧
      p.instruction = instruction)
    (names : p.tiers.map Tier.name <+: Tier.names)
    (place :
      (p.tiers.length = 1 ∧ budget ≤ p.openingTokens) ∨
      (p.tiers.length = 2 ∧ p.openingTokens < budget ∧
        budget ≤ p.openingTokens + totalTokens tasks) ∨
      (p.tiers.length = 3 ∧ p.openingTokens + totalTokens tasks < budget ∧
        budget ≤ p.openingTokens + totalTokens tasks + totalTokens conventions) ∨
      (p.tiers.length = 5 ∧
        p.openingTokens + totalTokens tasks + totalTokens conventions < budget))
    (chosen_tasks : p.tasks = if 2 ≤ p.tiers.length then tasks else [])
    (chosen_conventions : p.conventions = if 3 ≤ p.tiers.length then conventions else [])
    (no_knowledge : p.tiers.length ≠ 5 →
      p.decisions = [] ∧ p.learnings = [] ∧ p.summaries = []) :
    Staged sources instruction budget tasks conventions p where
  same_read_order := opening.1
  same_constitution := opening.2.1
  same_instruction := opening.2.2
  names := by
    have taken := List.prefix_iff_eq_take.mp names
    rwa [List.length_map] at taken
  lengths := by omega
  foundation_only := by omega
  through_tasks := by omega
  through_conventions := by omega
  all_tiers := by omega
  chosen_tasks := chosen_tasks
  chosen_conventions := chosen_conventions
  no_knowledge := no_knowledge
  report := lines_tierReport_of_names names
  skipped := skipNote_mem_of_names names

/-- An assembly goes on to the next tier exactly while some of the budget is left, and the caps of
tasks and conventions are parts of the whole budget. -/
theorem assemble_staged (settings : Settings) (now : Instant) (sources : Sources) (budget : Nat) :
    Staged sources settings.packet.instruction budget
      (Budget.fit (Budget.percentOf budget settings.packet.taskPercent) sources.tasks)
      (Budget.fit (Budget.percentOf budget settings.packet.conventionPercent) sources.conventions)
      (assemble settings now sources budget) := by
  have names := names_assemble settings now sources budget
  rcases assemble_cases settings now sources budget with
    ⟨stop, same⟩ | ⟨reach, stop, same⟩ | ⟨reach, stop, same⟩ | ⟨reach, same⟩
  · rw [same] at names ⊢
    exact staged_of_place ⟨rfl, rfl, rfl⟩ names (Or.inl ⟨rfl, stop⟩) rfl rfl
      fun _ => ⟨rfl, rfl, rfl⟩
  · rw [same] at names ⊢
    exact staged_of_place ⟨rfl, rfl, rfl⟩ names (Or.inr (Or.inl ⟨rfl, reach, stop⟩)) rfl rfl
      fun _ => ⟨rfl, rfl, rfl⟩
  · rw [same] at names ⊢
    exact staged_of_place ⟨rfl, rfl, rfl⟩ names (Or.inr (Or.inr (Or.inl ⟨rfl, reach, stop⟩))) rfl
      rfl fun _ => ⟨rfl, rfl, rfl⟩
  · rw [same] at names ⊢
    exact staged_of_place ⟨rfl, rfl, rfl⟩ names (Or.inr (Or.inr (Or.inr ⟨rfl, reach⟩))) rfl rfl
      fun short => absurd rfl short

end Briefing.Packet
