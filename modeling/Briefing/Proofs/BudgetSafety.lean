import Briefing.Proofs.Filling
import Briefing.Proofs.Ranking
import Briefing.Proofs.Shares
import Briefing.Proofs.Stages
import Briefing.Proofs.Validity
import Mathlib.Logic.ExistsUnique

namespace Briefing.Packet

inductive Overrun where
  | opening
  | tasks
  | conventions
  | summaries
  deriving DecidableEq, Repr

def Overrun.tiers : Overrun → Nat
  | .opening => 1
  | .tasks => 2
  | .conventions => 3
  | .summaries => 5

def overruns (p : Packet) : Overrun → Prop
  | .opening => p.tiers.length = 1 ∧ p.budget < p.openingTokens
  | .tasks => p.tiers.length = 2 ∧ p.budget < p.openingTokens + totalTokens p.tasks
  | .conventions => p.tiers.length = 3 ∧ p.budget < p.fixedTokens
  | .summaries => p.tiers.length = 5 ∧ p.leftover - p.bodyTokens < totalTokens p.summaries

theorem length_of_overruns {p : Packet} {cause : Overrun} (h : p.overruns cause) :
    p.tiers.length = cause.tiers := by
  cases cause <;> exact h.1

theorem tiers_inj {a b : Overrun} (h : a.tiers = b.tiers) : a = b := by
  cases a <;> cases b <;> first | rfl | cases h

theorem existsUnique_overruns {p : Packet} {cause : Overrun} (h : p.tiers.length = cause.tiers) :
    (∃! c, p.overruns c) ↔ p.overruns cause := by
  constructor
  · rintro ⟨c, hc, -⟩
    exact tiers_inj (length_of_overruns hc ▸ h) ▸ hc
  · intro hc
    exact ⟨cause, hc, fun c hc' => tiers_inj ((length_of_overruns hc').symm.trans h)⟩

theorem bodies_of_knowledge (settings : Settings) (now : Instant) (sources : Sources)
    (keywords : List String) (remaining : Nat) :
    totalTokens (knowledge settings now sources keywords remaining).1.bodies +
      totalTokens (knowledge settings now sources keywords remaining).2.bodies ≤
      settings.packet.fullContentPercent * remaining / 100 := by
  let percent := settings.packet.fullContentPercent
  let decisions := Scoring.ranked settings.scoring keywords now sources.decisions
  let learnings := Scoring.ranked settings.scoring keywords now sources.learnings
  let shares := Budget.split remaining decisions learnings settings.packet.splitFloorPercent
  have first : totalTokens (Budget.Section.fill decisions shares.1 percent).bodies ≤
      shares.1 * percent / 100 :=
    Budget.Section.totalTokens_fill_le
      (fun _ he => Scoring.tokens_of_mem_ranked settings.scoring keywords now he) _ _
  have second : totalTokens (Budget.Section.fill learnings shares.2 percent).bodies ≤
      shares.2 * percent / 100 :=
    Budget.Section.totalTokens_fill_le
      (fun _ he => Scoring.tokens_of_mem_ranked settings.scoring keywords now he) _ _
  have sum : shares.1 + shares.2 ≤ remaining := Budget.split_sum_le _ _ _ _
  calc totalTokens (Budget.Section.fill decisions shares.1 percent).bodies +
        totalTokens (Budget.Section.fill learnings shares.2 percent).bodies
      ≤ shares.1 * percent / 100 + shares.2 * percent / 100 := Nat.add_le_add first second
    _ ≤ (shares.1 * percent + shares.2 * percent) / 100 := Nat.div_add_div_le_add_div
    _ = percent * (shares.1 + shares.2) / 100 := by rw [← Nat.add_mul, Nat.mul_comm]
    _ ≤ percent * remaining / 100 := Nat.div_le_div_right (Nat.mul_le_mul_left percent sum)

structure WithinBudget (settings : PacketSettings) (sources : Sources) (budget : Nat) (p : Packet) :
    Prop where
  same_budget : p.budget = budget
  something_left : p.tiers.length = 5 → 0 < p.leftover
  bodies : p.tiers.length = 5 → p.bodyTokens ≤ settings.fullContentPercent * p.leftover / 100
  without_summaries : p.tiers.length = 5 → p.fixedTokens + p.bodyTokens ≤ budget
  overrun : budget < p.tokensUsed ↔ ∃! cause, p.overruns cause
  tasks : totalTokens p.tasks ≤
    max (settings.taskPercent * budget / 100) (tokens (sources.tasks.headD ""))
  conventions : totalTokens p.conventions ≤
    max (settings.conventionPercent * budget / 100) (tokens (sources.conventions.headD ""))

theorem withinBudget_of_early {settings : PacketSettings} {sources : Sources} {budget : Nat}
    {p : Packet} (cause : Overrun) (early : cause ≠ .summaries)
    (stopped : p.tiers.length = cause.tiers) (same : p.budget = budget)
    (exceeds : budget < p.tokensUsed ↔ p.overruns cause)
    (tasks : totalTokens p.tasks ≤
      max (settings.taskPercent * budget / 100) (tokens (sources.tasks.headD "")))
    (conventions : totalTokens p.conventions ≤
      max (settings.conventionPercent * budget / 100) (tokens (sources.conventions.headD ""))) :
    WithinBudget settings sources budget p := by
  have short : p.tiers.length ≠ 5 := by
    intro five
    exact early (tiers_inj (stopped.symm.trans five))
  exact ⟨same, fun five => absurd five short, fun five => absurd five short,
    fun five => absurd five short, exceeds.trans (existsUnique_overruns stopped).symm, tasks,
    conventions⟩

section

variable (settings : Settings) (now : Instant) (sources : Sources) (budget : Nat)

theorem withinBudget_foundation :
    WithinBudget settings.packet sources budget
      (foundation settings.packet sources budget).counted := by
  refine withinBudget_of_early .opening nofun rfl rfl ?_ (Nat.zero_le _) (Nat.zero_le _)
  simp [overruns, counted, emittedTokens, foundation, openingTokens, totalTokens, sumOver]

theorem withinBudget_taskStage :
    WithinBudget settings.packet sources budget
      (taskStage settings.packet sources budget).counted := by
  refine withinBudget_of_early .tasks nofun rfl rfl ?_
    (Budget.totalTokens_fit_percentOf_le settings.packet.taskPercent budget sources.tasks)
    (Nat.zero_le _)
  simp [overruns, counted, emittedTokens, taskStage, withTasks, foundation, openingTokens,
    totalTokens, sumOver]

theorem withinBudget_conventionStage :
    WithinBudget settings.packet sources budget
      (conventionStage settings.packet sources budget).counted := by
  refine withinBudget_of_early .conventions nofun rfl rfl ?_
    (Budget.totalTokens_fit_percentOf_le settings.packet.taskPercent budget sources.tasks)
    (Budget.totalTokens_fit_percentOf_le settings.packet.conventionPercent budget
      sources.conventions)
  simp [overruns, counted, emittedTokens, conventionStage, withConventions, taskStage, withTasks,
    foundation, fixedTokens, openingTokens, totalTokens, sumOver]

theorem withinBudget_knowledgeStage (full : settings.packet.fullContentPercent ≤ 100)
    (reach : throughConventions settings.packet sources budget < budget) :
    WithinBudget settings.packet sources budget
      (knowledgeStage settings now sources budget).counted := by
  generalize same : (knowledgeStage settings now sources budget).counted = p
  have fixed : p.fixedTokens = throughConventions settings.packet sources budget := by
    rw [← same]
    rfl
  have given : p.budget = budget := by rw [← same]; rfl
  have left : p.leftover = budget - throughConventions settings.packet sources budget := by
    rw [leftover, fixed, given]
  have five : p.tiers.length = Overrun.summaries.tiers := by rw [← same]; rfl
  have bodies : p.bodyTokens ≤ settings.packet.fullContentPercent * p.leftover / 100 := by
    rw [left, ← same]
    exact bodies_of_knowledge settings now sources _ _
  have below : settings.packet.fullContentPercent * p.leftover / 100 ≤ p.leftover := by
    rw [Nat.mul_comm]
    exact Budget.quotient_le p.leftover full
  have used : p.tokensUsed = p.fixedTokens + p.bodyTokens + totalTokens p.summaries := by
    rw [← same]
    exact emittedTokens_eq _
  refine ⟨given, fun _ => by omega, fun _ => bodies, fun _ => by omega, ?_, ?_, ?_⟩
  · rw [existsUnique_overruns five]
    constructor
    · intro exceeds
      exact ⟨five, by omega⟩
    · rintro ⟨-, exceeds⟩
      omega
  · rw [← same]
    exact Budget.totalTokens_fit_percentOf_le settings.packet.taskPercent budget sources.tasks
  · rw [← same]
    exact Budget.totalTokens_fit_percentOf_le settings.packet.conventionPercent budget
      sources.conventions

end

/-- Of a packet with accepted settings only the summaries, or a tier that nothing holds back, can
cost too much. -/
theorem assemble_withinBudget {settings : Settings} (accepted : settings.fault? = none)
    (scoring : ScoringSettings) (now : Instant) (sources : Sources) (budget : Nat) :
    WithinBudget settings.packet sources budget
      (assemble { settings with scoring := scoring } now sources budget) := by
  have full := (Settings.fault?_eq_none_iff.mp accepted).fullContent
  rcases assemble_cases { settings with scoring := scoring } now sources budget with
    ⟨-, same⟩ | ⟨-, -, same⟩ | ⟨-, -, same⟩ | ⟨reach, same⟩
  · rw [same]
    exact withinBudget_foundation { settings with scoring := scoring } sources budget
  · rw [same]
    exact withinBudget_taskStage { settings with scoring := scoring } sources budget
  · rw [same]
    exact withinBudget_conventionStage { settings with scoring := scoring } sources budget
  · rw [same]
    exact withinBudget_knowledgeStage { settings with scoring := scoring } now sources budget full
      reach

theorem assemble_withinBudget_large_task :
    Settings.terse.fault? = none ∧
    ∃! cause,
      (assemble Settings.terse ⟨0, 0⟩ { tasks := ["- [ ] Rewrite the reader"] } 6).overruns cause := by
  refine ⟨Settings.fault?_terse, ?_⟩
  refine (assemble_withinBudget Settings.fault?_terse {} ⟨0, 0⟩ _ 6).overrun.mp ?_
  decide +kernel

end Briefing.Packet
