import Briefing.Context
import Briefing.Proofs.BlockRoundTrip
import Briefing.Proofs.Filling
import Briefing.Proofs.ItemSections
import Briefing.Proofs.Ranking
import Briefing.Proofs.Stages

namespace Briefing

namespace Budget.Section

def chosen (budget : Nat) : List ScoredEntry → List Entry
  | [] => []
  | e :: es =>
      if e.score.isZero then chosen budget es
      else if e.tokens ≤ budget then e.entry :: chosen (budget - e.tokens) es
      else chosen budget es

theorem bodies_take (budget : Nat) (es : List ScoredEntry) :
    (take budget es).bodies = (chosen budget es).map Entry.content := by
  induction es generalizing budget with
  | nil => rfl
  | cons e es ih =>
      rw [take, chosen]
      split
      · exact ih budget
      · split
        · exact congrArg (e.entry.content :: ·) (ih (budget - e.tokens))
        · exact ih budget

theorem chosen_sublist (budget : Nat) (es : List ScoredEntry) :
    (chosen budget es).Sublist (es.map ScoredEntry.entry) := by
  induction es generalizing budget with
  | nil => exact List.Sublist.refl []
  | cons e es ih =>
      rw [chosen, List.map_cons]
      split
      · exact (ih budget).cons e.entry
      · split
        · exact (ih (budget - e.tokens)).cons_cons e.entry
        · exact (ih budget).cons e.entry

def filled (es : List ScoredEntry) (budget fullPercent : Nat) : List Entry :=
  if budget = 0 then [] else chosen (percentOf budget fullPercent) es

theorem bodies_fill (es : List ScoredEntry) (budget fullPercent : Nat) :
    (fill es budget fullPercent).bodies = (filled es budget fullPercent).map Entry.content := by
  unfold fill filled
  split
  · rfl
  · exact bodies_take _ es

theorem filled_sublist (es : List ScoredEntry) (budget fullPercent : Nat) :
    (filled es budget fullPercent).Sublist (es.map ScoredEntry.entry) := by
  unfold filled
  split
  · exact List.nil_sublist _
  · exact chosen_sublist _ es

end Budget.Section

namespace Packet

theorem join_bodies_eq_written (es : List Entry) :
    String.join ((es.map Entry.content).map fun body => line (line body)) =
      Entry.written es (List.replicate es.length 2) := by
  induction es with
  | nil => rfl
  | cons e es ih =>
      have two : line (line e.content) = e.content ++ Text.feeds 2 := by
        apply String.toList_injective
        simp [line, Text.feeds, List.replicate_succ]
      rw [List.map_cons, List.map_cons, String.join_cons, ih, List.length_cons,
        List.replicate_succ, Entry.written_cons, two]

theorem blocks_bodySection {title : String} (heading : Text.OneLine ("## " ++ title))
    (unread : Header.read? ("## " ++ title) = none) {es : List Entry}
    (legible : ∀ e ∈ es, Entry.Legible e) :
    Entry.blocks (bodySection title (es.map Entry.content)) = es := by
  unfold bodySection
  split
  · rename_i none
    rw [List.map_eq_nil_iff.mp none]
    rfl
  · have read := Entry.gather_written legible (List.length_replicate (n := es.length) (a := 2))
      fun n hn => by simp [List.eq_of_mem_replicate hn]
    rw [join_bodies_eq_written, Packet.heading, line, Entry.blocks, Text.lines_append heading,
      Entry.gather_none unread, read]

def inFull (settings : Settings) (now : Instant) (sources : Sources) (p : Packet) :
    List Entry × List Entry :=
  if p.tiers.length = 5 then
    (Budget.Section.filled (p.rankedDecisions settings now sources)
        (p.shares settings now sources).1 settings.packet.fullContentPercent,
      Budget.Section.filled (p.rankedLearnings settings now sources)
        (p.shares settings now sources).2 settings.packet.fullContentPercent)
  else ([], [])

section

variable (settings : Settings) (now : Instant) (sources : Sources) (budget : Nat)

theorem bodies_assemble {p : Packet} (same : assemble settings now sources budget = p) :
    p.decisions = (p.inFull settings now sources).1.map Entry.content ∧
      p.learnings = (p.inFull settings now sources).2.map Entry.content := by
  unfold inFull
  split
  · rename_i five
    obtain ⟨-, shown, result⟩ := knowledge_of_five same five
    have decisions : p.decisions = (sections settings now sources budget).1.bodies :=
      congrArg Packet.decisions result
    have learnings : p.learnings = (sections settings now sources budget).2.bodies :=
      congrArg Packet.learnings result
    rw [decisions, learnings, shown]
    exact ⟨Budget.Section.bodies_fill _ _ _, Budget.Section.bodies_fill _ _ _⟩
  · rename_i early
    subst same
    rw [length_tiers_eq_five] at early
    rcases assemble_cases settings now sources budget with
      ⟨-, same⟩ | ⟨-, -, same⟩ | ⟨-, -, same⟩ | ⟨reach, -⟩
    · rw [same]
      exact ⟨rfl, rfl⟩
    · rw [same]
      exact ⟨rfl, rfl⟩
    · rw [same]
      exact ⟨rfl, rfl⟩
    · exact absurd reach early

theorem mem_of_mem_filled {scoring : ScoringSettings} {keywords : List String} {now : Instant}
    {entries : List Entry} {share fullPercent : Nat} {e : Entry}
    (he : e ∈ Budget.Section.filled (Scoring.ranked scoring keywords now entries) share fullPercent) :
    e ∈ entries := by
  have listed := (Budget.Section.filled_sublist _ share fullPercent).subset he
  exact (Scoring.map_entry_ranked_perm scoring keywords now entries).subset listed

theorem mem_of_mem_inFull (p : Packet) :
    (∀ e ∈ (p.inFull settings now sources).1, e ∈ sources.decisions) ∧
      ∀ e ∈ (p.inFull settings now sources).2, e ∈ sources.learnings := by
  unfold inFull
  split
  · exact ⟨fun e he => mem_of_mem_filled he, fun e he => mem_of_mem_filled he⟩
  · exact ⟨fun e he => absurd he List.not_mem_nil, fun e he => absurd he List.not_mem_nil⟩

theorem tasks_subset : (assemble settings now sources budget).tasks ⊆ sources.tasks := by
  have chosen : chosenTasks settings.packet sources budget ⊆ sources.tasks :=
    (Budget.fit_prefix _ sources.tasks).subset
  refine assemble_of_stages (motive := fun p => p.tasks ⊆ sources.tasks) settings now sources budget
    ?_ chosen chosen chosen
  exact List.nil_subset sources.tasks

theorem conventions_subset :
    (assemble settings now sources budget).conventions ⊆ sources.conventions := by
  have chosen : chosenConventions settings.packet sources budget ⊆ sources.conventions :=
    (Budget.fit_prefix _ sources.conventions).subset
  refine assemble_of_stages (motive := fun p => p.conventions ⊆ sources.conventions) settings now
    sources budget ?_ ?_ chosen chosen
  · exact List.nil_subset sources.conventions
  · exact List.nil_subset sources.conventions

end

/-- The sections of the document, each with the reader that it was written for. -/
structure ReadBack (settings : Settings) (now : Instant) (sources : Sources) (p : Packet) : Prop where
  document : ∀ generated, ∃ above below,
    p.markdown generated = above ++
      (taskSection p.tasks ++ bulletSection "Key Conventions" p.conventions ++
        bodySection "Recent Decisions" p.decisions ++ bodySection "Key Learnings" p.learnings) ++
      below
  tasks : Items.activeTasks (taskSection p.tasks) = p.tasks
  conventions : Items.bullets (bulletSection "Key Conventions" p.conventions) = p.conventions
  decision_bodies : p.decisions = (p.inFull settings now sources).1.map Entry.content
  learning_bodies : p.learnings = (p.inFull settings now sources).2.map Entry.content
  from_decisions : ∀ e ∈ (p.inFull settings now sources).1, e ∈ sources.decisions
  from_learnings : ∀ e ∈ (p.inFull settings now sources).2, e ∈ sources.learnings
  decisions : Entry.blocks (bodySection "Recent Decisions" p.decisions) =
    (p.inFull settings now sources).1
  learnings : Entry.blocks (bodySection "Key Learnings" p.learnings) =
    (p.inFull settings now sources).2

theorem assemble_readBack (settings : Settings) (now : Instant) {c : Context}
    (decisions_whole : ∀ l ∈ Text.lines (c.text Context.decisionsFile), Text.Whole l)
    (learnings_whole : ∀ l ∈ Text.lines (c.text Context.learningsFile), Text.Whole l)
    (budget : Nat) :
    ReadBack settings now c.sources (assemble settings now c.sources budget) := by
  have tasks := tasks_subset settings now c.sources budget
  have conventions := conventions_subset settings now c.sources budget
  generalize same : assemble settings now c.sources budget = p at tasks conventions ⊢
  obtain ⟨decision_bodies, learning_bodies⟩ := bodies_assemble settings now c.sources budget same
  obtain ⟨from_decisions, from_learnings⟩ := mem_of_mem_inFull settings now c.sources p
  refine ⟨?_, ?_, ?_, decision_bodies, learning_bodies, from_decisions, from_learnings, ?_, ?_⟩
  · intro generated
    refine ⟨p.titleLine generated ++ readingList p.readOrder ++
        bulletSection "Constitution (NEVER VIOLATE)" p.constitution,
      bulletSection "Also Noted" p.summaries ++ line p.instruction, ?_⟩
    simp only [markdown, String.append_assoc]
  · exact activeTasks_taskSection fun t ht => tasks ht
  · exact bullets_bulletSection ⟨by decide, by decide⟩ (by decide) fun b hb => conventions hb
  · rw [decision_bodies]
    exact blocks_bodySection ⟨by decide, by decide⟩ (by decide +kernel) fun e he =>
      Entry.legible_of_mem_blocks decisions_whole (from_decisions e he)
  · rw [learning_bodies]
    exact blocks_bodySection ⟨by decide, by decide⟩ (by decide +kernel) fun e he =>
      Entry.legible_of_mem_blocks learnings_whole (from_learnings e he)

def notebook : Context :=
  ⟨".context",
    [.named ".context" Context.decisionsFile
      "## [2026-02-19-120000] Index\nA\rB\n\n\n## [2026-02-18-120000] Log\n- [ ] no task",
     .named ".context" Context.tasksFile "- [ ] Index\r\n"]⟩

theorem assemble_readBack_notebook :
    ((∀ l ∈ Text.lines (notebook.text Context.decisionsFile), Text.Whole l) ∧
      ∀ l ∈ Text.lines (notebook.text Context.learningsFile), Text.Whole l) ∧
    ReadBack {} ⟨1771502400, 0⟩ notebook.sources
      (assemble {} ⟨1771502400, 0⟩ notebook.sources 8000) := by
  have decisions : ∀ l ∈ Text.lines (notebook.text Context.decisionsFile), Text.Whole l := by
    decide +kernel
  have learnings : ∀ l ∈ Text.lines (notebook.text Context.learningsFile), Text.Whole l := by
    decide +kernel
  exact ⟨⟨decisions, learnings⟩, assemble_readBack {} ⟨1771502400, 0⟩ decisions learnings 8000⟩

end Packet

end Briefing
