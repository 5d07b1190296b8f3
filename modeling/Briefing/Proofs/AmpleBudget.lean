import Briefing.Proofs.BudgetSafety
import Briefing.Proofs.Coverage

namespace Briefing.Budget

theorem le_percentOf {value percent n : Nat} (bound : value < 2 ^ 64) (full : percent ≤ 100)
    (h : n * 100 ≤ value * percent) : n ≤ percentOf value percent := by
  rw [percentOf_eq bound full]
  exact (Nat.le_div_iff_mul_le (by decide)).mpr h

theorem fit_percentOf_eq_self {budget percent : Nat} (counted : percent * budget / 100 < 2 ^ 64)
    {items : List String} (fits : totalTokens items ≤ percent * budget / 100) :
    fit (percentOf budget percent) items = items := by
  refine fit_eq_self ?_
  rwa [percentOf, Nat.mul_comm, narrow_of_lt counted]

section

variable {total percent x y : Nat} (margin : (100 + percent) * (x + y) ≤ percent * total)
include margin

/-- The margin makes up for the token that the quotient can lose. -/
theorem hundred_le_quotient (some : 0 < percent) (pos : 0 < x) :
    x * 100 ≤ total * x / (x + y) * percent := by
  have quotient : total * x < (x + y) * (total * x / (x + y) + 1) :=
    Nat.lt_mul_div_succ _ (by omega)
  generalize total * x / (x + y) = share at quotient ⊢
  have scaled : (x + y) * ((100 + percent) * x) < (x + y) * (percent * (share + 1)) := by
    calc (x + y) * ((100 + percent) * x) = (100 + percent) * (x + y) * x := by ring
      _ ≤ percent * total * x := Nat.mul_le_mul_right x margin
      _ = percent * (total * x) := Nat.mul_assoc _ _ _
      _ < percent * ((x + y) * (share + 1)) := Nat.mul_lt_mul_of_pos_left quotient some
      _ = (x + y) * (percent * (share + 1)) := by ring
  have below : (100 + percent) * x < percent * (share + 1) := Nat.lt_of_mul_lt_mul_left scaled
  have one : percent ≤ percent * x := Nat.le_mul_of_pos_right percent pos
  rw [Nat.add_mul, Nat.mul_add, Nat.mul_one] at below
  rw [Nat.mul_comm x, Nat.mul_comm share]
  omega

theorem hundred_le_rest (pos : 0 < x + y) :
    y * 100 ≤ (total - total * x / (x + y)) * percent := by
  have quotient : total * x / (x + y) * (x + y) ≤ total * x := Nat.div_mul_le_self _ _
  generalize total * x / (x + y) = share at quotient ⊢
  have rest : total * y ≤ (total - share) * (x + y) := by
    rw [Nat.sub_mul, Nat.mul_add]
    omega
  have scaled : (x + y) * (y * 100) ≤ (x + y) * ((total - share) * percent) := by
    calc (x + y) * (y * 100) ≤ (x + y) * (y * (100 + percent)) := by gcongr; omega
      _ = (100 + percent) * (x + y) * y := by ring
      _ ≤ percent * total * y := Nat.mul_le_mul_right y margin
      _ = percent * (total * y) := Nat.mul_assoc _ _ _
      _ ≤ percent * ((total - share) * (x + y)) := Nat.mul_le_mul_left percent rest
      _ = (x + y) * ((total - share) * percent) := by ring
  exact Nat.le_of_mul_le_mul_left scaled pos

end

/-- With the margin, what each section may spend on bodies pays for all of its entries. -/
theorem need_le_split {total percent : Nat} (bound : total < 2 ^ 64) (some : 0 < percent)
    (full : percent ≤ 100) (floorPercent : Nat) {a b : List ScoredEntry}
    (costly : a ≠ [] → 0 < need a)
    (margin : (100 + percent) * (need a + need b) ≤ percent * total) :
    need a ≤ percentOf (split total a b floorPercent).1 percent ∧
      need b ≤ percentOf (split total a b floorPercent).2 percent := by
  have fits : need a + need b ≤ total := by
    refine Nat.le_of_mul_le_mul_left ?_ some
    exact (Nat.mul_le_mul_right _ (Nat.le_add_left percent 100)).trans margin
  have alone {n : Nat} (part : n ≤ need a + need b) : n ≤ percentOf total percent := by
    refine le_percentOf bound full ?_
    calc n * 100 ≤ (need a + need b) * (100 + percent) := Nat.mul_le_mul part (by omega)
      _ ≤ total * percent := by rwa [Nat.mul_comm, Nat.mul_comm total]
  by_cases ha : a = []
  · refine ⟨by rw [ha]; exact Nat.zero_le _, ?_⟩
    by_cases hb : b = []
    · rw [hb]
      exact Nat.zero_le _
    · rw [(fair_split bound floorPercent a b).first_empty ha hb]
      exact alone (Nat.le_add_left _ _)
  · by_cases hb : b = []
    · rw [(fair_split bound floorPercent a b).second_empty ha hb, hb]
      exact ⟨alone (Nat.le_add_right _ _), Nat.zero_le _⟩
    · have pos := costly ha
      have share := firstShare_le total floorPercent (need a) (need b)
      rw [split_of_ne_nil total floorPercent ha hb]
      rw [firstShare_of_fits bound floorPercent (by omega) fits] at share ⊢
      exact ⟨le_percentOf (share.trans_lt bound) full (hundred_le_quotient margin some pos),
        le_percentOf ((Nat.sub_le _ _).trans_lt bound) full (hundred_le_rest margin (by omega))⟩

end Briefing.Budget

namespace Briefing

theorem Scoring.need_ranked_pos {entries : List Entry} (written : ∀ e ∈ entries, e.content ≠ "")
    (scoring : ScoringSettings) (keywords : List String) (now : Instant)
    (listed : ranked scoring keywords now entries ≠ []) :
    0 < Budget.need (ranked scoring keywords now entries) := by
  rw [need_ranked]
  exact entryTokens_pos (fun none => listed ((ranked_eq_nil _ _ _).mpr none)) written

namespace Packet

def foremost (settings : PacketSettings) (sources : Sources) : List String :=
  sources.readOrder ++ sources.constitution ++ [settings.instruction] ++ sources.tasks ++
    sources.conventions

/-- The tasks and the conventions stay within their caps, and what is then left of the budget
exceeds the knowledge by a margin that depends on the part of it that is for bodies. -/
structure Ample (settings : PacketSettings) (sources : Sources) (budget : Nat) : Prop where
  tasks : totalTokens sources.tasks ≤ settings.taskPercent * budget / 100
  conventions : totalTokens sources.conventions ≤ settings.conventionPercent * budget / 100
  rest : totalTokens (foremost settings sources) < budget
  margin :
    (100 + settings.fullContentPercent) *
        (entryTokens sources.decisions + entryTokens sources.learnings) ≤
      settings.fullContentPercent * (budget - totalTokens (foremost settings sources))

/-- The caps of the tasks and the conventions are token counts, of which no bits are lost. -/
structure Capped (settings : PacketSettings) (budget : Nat) : Prop where
  tasks : settings.taskPercent * budget / 100 < 2 ^ 64
  conventions : settings.conventionPercent * budget / 100 < 2 ^ 64

theorem capped_of_unwrapped {settings : Settings} (accepted : settings.fault? = none)
    (whole : settings.Unwrapped) {budget : Nat} (bound : budget < 2 ^ 64) :
    Capped settings.packet budget := by
  have percents := (Settings.fault?_eq_none_iff.mp accepted).percents
  rw [whole.percentSum_eq] at percents
  have part {percent : Nat} (h : percent ≤ 100) : percent * budget / 100 < 2 ^ 64 := by
    rw [Nat.mul_comm]
    exact (Budget.quotient_le budget h).trans_lt bound
  exact ⟨part (by omega), part (by omega)⟩

structure Undegraded (sources : Sources) (budget : Nat) (p : Packet) : Prop where
  tasks : p.tasks = sources.tasks
  conventions : p.conventions = sources.conventions
  decisions : p.decisions.Perm
    ((sources.decisions.filter fun e => !e.superseded).map Entry.content)
  learnings : p.learnings.Perm
    ((sources.learnings.filter fun e => !e.superseded).map Entry.content)
  no_summaries : p.summaries = []
  within : p.tokensUsed ≤ budget

def ShowsAll (entries : List Entry) (shown : Budget.Section) : Prop :=
  shown.titles = [] ∧
    shown.bodies.Perm ((entries.filter fun e => !e.superseded).map Entry.content)

section

variable {settings : Settings} (valid : settings.Valid) (now : Instant) (keywords : List String)
include valid

theorem showsAll_fill {entries : List Entry} (written : ∀ e ∈ entries, e.content ≠ "")
    {share percent : Nat} (fits : entryTokens entries ≤ Budget.percentOf share percent) :
    ShowsAll entries (Budget.Section.fill (Scoring.ranked settings.scoring keywords now entries)
      share percent) := by
  have need := Scoring.need_ranked keywords now entries settings.scoring
  rw [Budget.Section.fill_eq_bodies (Scoring.need_ranked_pos written _ _ _) (need ▸ fits)]
  refine ⟨rfl, ?_⟩
  have live := (Scoring.liveEntries_ranked_perm keywords now entries settings.scoring).map
    Entry.content
  rwa [Scoring.liveEntries_ranked keywords now entries valid, List.map_map] at live

theorem showsAll_knowledge (full : 1 ≤ settings.packet.fullContentPercent) {sources : Sources}
    (written : ∀ e ∈ sources.decisions ++ sources.learnings, e.content ≠ "") {remaining : Nat}
    (bound : remaining < 2 ^ 64)
    (margin :
      (100 + settings.packet.fullContentPercent) *
          (entryTokens sources.decisions + entryTokens sources.learnings) ≤
        settings.packet.fullContentPercent * remaining) :
    ShowsAll sources.decisions (knowledge settings now sources keywords remaining).1 ∧
      ShowsAll sources.learnings (knowledge settings now sources keywords remaining).2 := by
  have writtenD : ∀ e ∈ sources.decisions, e.content ≠ "" := fun e he =>
    written e (List.mem_append_left _ he)
  have writtenL : ∀ e ∈ sources.learnings, e.content ≠ "" := fun e he =>
    written e (List.mem_append_right _ he)
  have needD := Scoring.need_ranked keywords now sources.decisions settings.scoring
  have needL := Scoring.need_ranked keywords now sources.learnings settings.scoring
  rw [← needD, ← needL] at margin
  obtain ⟨first, second⟩ := Budget.need_le_split bound full valid.fullContent
    settings.packet.splitFloorPercent (Scoring.need_ranked_pos writtenD _ _ _) margin
  rw [needD] at first
  rw [needL] at second
  exact ⟨showsAll_fill valid now keywords writtenD first,
    showsAll_fill valid now keywords writtenL second⟩

end

theorem totalTokens_foremost {settings : PacketSettings} {sources : Sources} {budget : Nat}
    (tasks : chosenTasks settings sources budget = sources.tasks)
    (conventions : chosenConventions settings sources budget = sources.conventions) :
    totalTokens (foremost settings sources) = throughConventions settings sources budget := by
  have one : totalTokens [settings.instruction] = tokens settings.instruction := rfl
  simp only [foremost, totalTokens_append, one, throughConventions, throughTasks, foundationTokens,
    tasks, conventions]

theorem tokensUsed_of_no_summaries {p : Packet} (none : p.summaries = []) :
    p.counted.tokensUsed = p.counted.fixedTokens + p.counted.bodyTokens := by
  refine (emittedTokens_eq p).trans ?_
  rw [none]
  rfl

theorem assemble_undegraded {settings : Settings} (accepted : settings.fault? = none)
    (full : 1 ≤ settings.packet.fullContentPercent) (now : Instant) {sources : Sources}
    (written : ∀ e ∈ sources.decisions ++ sources.learnings, e.content ≠ "")
    {budget : Nat} (bound : budget < 2 ^ 64) (capped : Capped settings.packet budget)
    (ample : Ample settings.packet sources budget) :
    Undegraded sources budget (assemble settings now sources budget) := by
  have valid := Settings.fault?_eq_none_iff.mp accepted
  have tasks : chosenTasks settings.packet sources budget = sources.tasks :=
    Budget.fit_percentOf_eq_self capped.tasks ample.tasks
  have conventions : chosenConventions settings.packet sources budget = sources.conventions :=
    Budget.fit_percentOf_eq_self capped.conventions ample.conventions
  have cost := totalTokens_foremost tasks conventions
  have reach : throughConventions settings.packet sources budget < budget := cost ▸ ample.rest
  have margin := ample.margin
  rw [cost] at margin
  obtain ⟨⟨noTitlesD, decisions⟩, noTitlesL, learnings⟩ := showsAll_knowledge valid now
    (chosenKeywords settings sources budget) full written (by omega) margin
  have summaries : (knowledgeStage settings now sources budget).summaries = [] :=
    List.append_eq_nil_iff.mpr ⟨noTitlesD, noTitlesL⟩
  have safe := withinBudget_knowledgeStage settings now sources budget valid.fullContent reach
  rw [assemble_of_throughConventions_lt settings now sources budget reach]
  refine ⟨tasks, conventions, decisions, learnings, summaries, ?_⟩
  rw [tokensUsed_of_no_summaries summaries]
  exact safe.without_summaries rfl

def roomy : Sources :=
  { tasks := ["- [ ] Ship"]
    conventions := ["Short names"]
    decisions :=
      [Entry.ofLines ⟨"2026-02-19-120000", "2026-02-19", "Old choice"⟩
        ["## [2026-02-19-120000] Old choice", "~~Superseded~~"],
       Entry.ofLines ⟨"2026-02-19-130000", "2026-02-19", "Choice"⟩
        ["## [2026-02-19-130000] Choice"]]
    learnings := [Entry.ofLines ⟨"2026-02-19-140000", "2026-02-19", "Lesson"⟩
      ["## [2026-02-19-140000] Lesson"]] }

theorem ample_roomy : Ample Settings.terse.packet roomy 71 where
  tasks := by decide +kernel
  conventions := by decide +kernel
  rest := by decide +kernel
  margin := by decide +kernel

theorem assemble_undegraded_least :
    (Settings.terse.fault? = none ∧ 1 ≤ Settings.terse.packet.fullContentPercent ∧
      (∀ e ∈ roomy.decisions ++ roomy.learnings, e.content ≠ "") ∧ 71 < 2 ^ 64 ∧
      Capped Settings.terse.packet 71 ∧ Ample Settings.terse.packet roomy 71 ∧
      ¬ Ample Settings.terse.packet roomy 70) ∧
    Undegraded roomy 71 (assemble Settings.terse ⟨1771502400, 0⟩ roomy 71) := by
  have written : ∀ e ∈ roomy.decisions ++ roomy.learnings, e.content ≠ "" := by decide +kernel
  have short : ¬ Ample Settings.terse.packet roomy 70 := by
    intro ample
    exact absurd ample.margin (by decide +kernel)
  have capped : Capped Settings.terse.packet 71 :=
    capped_of_unwrapped Settings.fault?_terse (by decide) (by decide)
  exact ⟨⟨Settings.fault?_terse, by decide, written, by decide, capped, ample_roomy, short⟩,
    assemble_undegraded Settings.fault?_terse (by decide) ⟨1771502400, 0⟩ written (by decide)
      capped ample_roomy⟩

/-- Percentages that are accepted because their sum is cut off to nothing. -/
def boundless : Settings :=
  { packet := { taskPercent := 2 ^ 31, conventionPercent := 2 ^ 31, instruction := "Confirm." } }

def chores : Sources := { tasks := ["- [ ] Ship", "- [ ] Write"] }

/-- The cap of the tasks is cut off to nothing as well, so that only the first of them is taken. -/
theorem assemble_degraded :
    boundless.fault? = none ∧ 1 ≤ boundless.packet.fullContentPercent ∧
      (∀ e ∈ chores.decisions ++ chores.learnings, e.content ≠ "") ∧ 858993459200 < 2 ^ 64 ∧
      Ample boundless.packet chores 858993459200 ∧
      (assemble boundless ⟨1771502400, 0⟩ chores 858993459200).tasks = ["- [ ] Ship"] ∧
      ¬ Undegraded chores 858993459200 (assemble boundless ⟨1771502400, 0⟩ chores 858993459200) := by
  have ample : Ample boundless.packet chores 858993459200 :=
    ⟨by decide +kernel, by decide +kernel, by decide +kernel, by decide +kernel⟩
  have taken : (assemble boundless ⟨1771502400, 0⟩ chores 858993459200).tasks = ["- [ ] Ship"] := by
    decide +kernel
  refine ⟨by decide +kernel, by decide, nofun, by decide, ample, taken, fun all => ?_⟩
  have kept := all.tasks
  rw [taken] at kept
  exact absurd kept (by decide)

end Packet

end Briefing
