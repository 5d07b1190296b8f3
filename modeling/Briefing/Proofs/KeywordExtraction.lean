import Briefing.Keywords
import Briefing.Proofs.FirstOccurrences

namespace Briefing

/-- The pieces of a text that is cut at every character that separates. There is an empty one between
two such characters, and before the first and after the last where they are at an end. -/
inductive CutAt (separates : Char → Bool) : List Char → List (List Char) → Prop where
  | last {piece : List Char} : (∀ c ∈ piece, separates c = false) → CutAt separates piece [piece]
  | cut {piece rest : List Char} {c : Char} {pieces : List (List Char)} :
      (∀ d ∈ piece, separates d = false) → separates c = true → CutAt separates rest pieces →
        CutAt separates (piece ++ c :: rest) (piece :: pieces)

section

variable {separates : Char → Bool}

theorem CutAt.splitOnP_eq {s : List Char} {pieces : List (List Char)} (h : CutAt separates s pieces) :
    s.splitOnP separates = pieces := by
  induction h with
  | last plain => exact List.splitOnP_eq_singleton plain
  | cut plain separator _ ih =>
      rw [List.splitOnP_append_cons _ _ separator, List.splitOnP_eq_singleton plain, ih]
      rfl

theorem CutAt.extend {s : List Char} {pieces : List (List Char)} {c : Char}
    (plain : separates c = false) (h : CutAt separates s pieces) :
    CutAt separates (c :: s) (pieces.modifyHead (c :: ·)) := by
  cases h with
  | last rest => exact .last (List.forall_mem_cons.mpr ⟨plain, rest⟩)
  | cut rest separator later => exact .cut (List.forall_mem_cons.mpr ⟨plain, rest⟩) separator later

theorem cutAt_splitOnP (s : List Char) : CutAt separates s (s.splitOnP separates) := by
  induction s with
  | nil =>
      rw [List.splitOnP_nil]
      exact .last (List.forall_mem_nil _)
  | cons c s ih =>
      rw [List.splitOnP_cons_eq_if_modifyHead]
      split
      · rename_i separator
        exact .cut (List.forall_mem_nil _) separator ih
      · rename_i plain
        exact ih.extend (Bool.not_eq_true _ ▸ plain)

theorem cutAt_iff {s : List Char} {pieces : List (List Char)} :
    CutAt separates s pieces ↔ pieces = s.splitOnP separates :=
  ⟨fun h => h.splitOnP_eq.symm, fun same => same ▸ cutAt_splitOnP s⟩

end

namespace Keywords

def separates (c : Char) : Bool := !Text.isAlphanumeric c

def eligible (scoring : ScoringSettings) (pieces : List (List Char)) : List String :=
  ((pieces.filter fun piece => scoring.minKeywordLength ≤ piece.length).map fun piece =>
    Text.lowercase (String.ofList piece)).filter
      fun word => ∀ stop ∈ scoring.stopWords, Text.lowercase stop ≠ word

def Cuts (tasks : List String) (cuts : List (List (List Char))) : Prop :=
  List.Forall₂ (fun task pieces => CutAt separates task.toList pieces) tasks cuts

theorem Cuts.eq_map {tasks : List String} {cuts : List (List (List Char))} (h : Cuts tasks cuts) :
    cuts = tasks.map fun task => task.toList.splitOnP separates := by
  induction h with
  | nil => rfl
  | cons cut _ ih => rw [List.map_cons, ← ih, ← cutAt_iff.mp cut]

theorem eligible_append (scoring : ScoringSettings) (pieces more : List (List Char)) :
    eligible scoring (pieces ++ more) = eligible scoring pieces ++ eligible scoring more := by
  simp only [eligible, List.filter_append, List.map_append]

variable (scoring : ScoringSettings)

theorem candidates_eq (task : String) :
    candidates scoring.minKeywordLength (stopWords scoring) task =
      eligible scoring (task.toList.splitOnP separates) := by
  have stopped (word : String) : (!(stopWords scoring).contains word) =
      decide (∀ stop ∈ scoring.stopWords, Text.lowercase stop ≠ word) := by
    rw [Bool.eq_iff_iff]
    simp [stopWords]
  simp only [candidates, pieces, List.filter_map, List.map_map, stopped, eligible]
  simp only [Function.comp_def, String.length_ofList]
  rfl

theorem flatMap_candidates (tasks : List String) :
    tasks.flatMap (candidates scoring.minKeywordLength (stopWords scoring)) =
      eligible scoring (tasks.map fun task => task.toList.splitOnP separates).flatten := by
  induction tasks with
  | nil => rfl
  | cons task tasks ih =>
      rw [List.flatMap_cons, List.map_cons, List.flatten_cons, eligible_append, candidates_eq, ih]

theorem mem_extract {tasks : List String} {word : String} :
    word ∈ extract scoring tasks ↔
      ∃ task ∈ tasks, word ∈ candidates scoring.minKeywordLength (stopWords scoring) task := by
  rw [extract, List.mem_eraseDups, List.mem_flatMap]

theorem extract_append (tasks more : List String) :
    extract scoring (tasks ++ more) =
      extract scoring tasks ++ (extract scoring more).filter fun word =>
        word ∉ extract scoring tasks := by
  simp only [extract, List.flatMap_append, eraseDups_append, List.mem_eraseDups]

theorem extract_prefix {fewer more : List String} (h : fewer <+: more) :
    extract scoring fewer <+: extract scoring more := by
  obtain ⟨rest, rfl⟩ := h
  exact ⟨_, (extract_append scoring fewer rest).symm⟩

theorem extract_repeated {tasks again : List String} (known : again ⊆ tasks) :
    extract scoring (tasks ++ again) = extract scoring tasks := by
  have nothing : ((extract scoring again).filter fun word => word ∉ extract scoring tasks) = [] := by
    refine List.filter_eq_nil_iff.mpr fun word hword => ?_
    obtain ⟨task, there, spoken⟩ := (mem_extract scoring).mp hword
    have old := (mem_extract scoring).mpr ⟨task, known there, spoken⟩
    simpa using old
  rw [extract_append, nothing, List.append_nil]

/-- Keywords are the first occurrences of the words of the tasks, cut at whatever is neither letter
nor digit. More tasks only add keywords at the end. -/
structure ExtractsWords : Prop where
  cut : ∀ task : String, ∃! pieces, CutAt separates task.toList pieces
  extracted : ∀ tasks cuts kept, Cuts tasks cuts →
    (FirstOccurrences (eligible scoring cuts.flatten) kept ↔ kept = extract scoring tasks)
  appended : ∀ tasks more, extract scoring (tasks ++ more) =
    extract scoring tasks ++ (extract scoring more).filter fun word => word ∉ extract scoring tasks
  initial : ∀ tasks more, extract scoring tasks <+: extract scoring (tasks ++ more)
  repeated : ∀ tasks again more, again ⊆ tasks →
    extract scoring (tasks ++ again ++ more) = extract scoring (tasks ++ more)

theorem extract_words : ExtractsWords scoring := by
  refine ⟨?_, ?_, extract_append scoring, ?_, ?_⟩
  · intro task
    exact ⟨_, cutAt_splitOnP _, fun pieces h => cutAt_iff.mp h⟩
  · intro tasks cuts kept all
    have first : FirstOccurrences (eligible scoring cuts.flatten) (extract scoring tasks) := by
      rw [all.eq_map, ← flatMap_candidates]
      exact firstOccurrences_eraseDups _
    exact ⟨fun other => other.unique first, fun same => same ▸ first⟩
  · intro tasks more
    exact extract_prefix scoring (List.prefix_append tasks more)
  · intro tasks again more known
    rw [extract_append scoring (tasks ++ again), extract_append scoring tasks more,
      extract_repeated scoring known]

end Keywords

end Briefing
