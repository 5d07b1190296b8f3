import Briefing.Proofs.LiveScores
import Briefing.Proofs.TomlDeletion
import Briefing.Proofs.TomlLines
import Briefing.Settings.File

namespace Briefing

open Toml

section outlines

def RecencyBucket.pairs (b : RecencyBucket) : Entries :=
  [("max_age_days", .integer b.maxAgeDays), ("score", .float b.score)]

def PacketSettings.part (p : PacketSettings) : Part where
  name := "packet"
  pairs :=
    [("task_pct", .integer p.taskPercent), ("convention_pct", .integer p.conventionPercent),
     ("split_floor_pct", .integer p.splitFloorPercent),
     ("full_content_pct", .integer p.fullContentPercent), ("instruction", .text p.instruction)]
  arrays := []

def ScoringSettings.pairs (s : ScoringSettings) : Entries :=
  [("stale_score", .float s.staleScore), ("relevance_saturation", .integer s.relevanceSaturation),
   ("min_keyword_len", .integer s.minKeywordLength), ("stop_words", .array (s.stopWords.map .text))]

def ScoringSettings.part (s : ScoringSettings) : Part where
  name := "scoring"
  pairs := s.pairs ++ if s.recencyBuckets.isEmpty then [("recency_buckets", .array [])] else []
  arrays :=
    if s.recencyBuckets.isEmpty then []
    else [("recency_buckets", s.recencyBuckets.map RecencyBucket.pairs)]

def ScoringSettings.bucketsValue (s : ScoringSettings) : Value :=
  match s.recencyBuckets with
  | [] => .array []
  | buckets => .tables (buckets.map RecencyBucket.pairs)

def AgentSettings.part (a : AgentSettings) : Part where
  name := "agent"
  pairs := [("cooldown_secs", .integer a.cooldownSeconds)]
  arrays := []

def Settings.outline (s : Settings) : Outline where
  pairs := [("context_dir", .text s.contextDirectory), ("token_budget", .integer s.tokenBudget)]
  parts := [s.packet.part, s.scoring.part, s.agent.part]

theorem elements_pairs (buckets : List RecencyBucket) :
    (buckets.map RecencyBucket.pairs).flatMap (elementStatements ["scoring", "recency_buckets"]) =
      buckets.flatMap RecencyBucket.statements := by
  rw [List.flatMap_map]
  rfl

theorem ScoringSettings.statements_part (s : ScoringSettings) :
    s.part.statements = s.statements := by
  obtain ⟨stale, saturation, length, words, buckets⟩ := s
  cases buckets with
  | nil => rfl
  | cons b buckets =>
      simp only [part, Part.statements, List.isEmpty_cons, Bool.false_eq_true, if_false,
        List.flatMap_singleton, elements_pairs, statements, bucketStatements]
      rfl

theorem ScoringSettings.entries_part (s : ScoringSettings) :
    s.part.entries = s.pairs ++ [("recency_buckets", s.bucketsValue)] := by
  obtain ⟨stale, saturation, length, words, buckets⟩ := s
  cases buckets <;> rfl

theorem Settings.statements_outline (s : Settings) : s.outline.statements = s.statements := by
  rw [Outline.statements, outline, List.flatMap_cons, List.flatMap_cons, List.flatMap_singleton,
    ScoringSettings.statements_part]
  rfl

theorem RecencyBucket.distinct_pairs (b : RecencyBucket) : Distinct b.pairs := by
  simp [Distinct, pairs]

theorem ScoringSettings.proper_part (s : ScoringSettings) : s.part.Proper := by
  unfold part
  split
  · exact ⟨by simp [pairs], nofun⟩
  · refine ⟨by simp [pairs], ?_⟩
    intro a ha entries member
    rw [List.mem_singleton.mp ha] at member
    obtain ⟨b, -, rfl⟩ := List.mem_map.mp member
    exact b.distinct_pairs

theorem Settings.proper_outline (s : Settings) : s.outline.Proper where
  distinct := by
    have names : s.outline.entries.map Prod.fst =
        ["context_dir", "token_budget", "packet", "scoring", "agent"] := rfl
    rw [Distinct, names]
    decide
  parts := by
    have packet : s.packet.part.Proper := by constructor <;> simp [PacketSettings.part]
    have agent : s.agent.part.Proper := by constructor <;> simp [AgentSettings.part]
    simpa [outline] using ⟨packet, s.scoring.proper_part, agent⟩

end outlines

section plain

theorem isInteger_natCast {n : Nat} : isInteger (n : Int) = true ↔ n < 2 ^ 63 := by
  have bound : (1 <<< 63 : Nat) = 2 ^ 63 := by decide
  rw [isInteger, bound, Bool.and_eq_true, decide_eq_true_eq, decide_eq_true_eq]
  omega

theorem plain_count {key : String} (path : Path [key]) {n : Nat} (fits : n < 2 ^ 63) :
    Plain (.assign [key] (.integer n)) :=
  .assign path (.scalar (.integer (isInteger_natCast.mpr fits)))

theorem plain_score {key : String} (path : Path [key]) {x : Binary64}
    (live : Settings.isLiveScore x = true) : Plain (.assign [key] (.float x)) := by
  obtain ⟨fraction, pos⟩ := Binary64.isLiveScore_iff.mp live
  exact .assign path (.scalar (.float fraction.nonneg pos
    (Nat.lt_of_le_of_lt fraction.le_one Binary64.one_lt_infinite)))

theorem plain_text {key : String} (path : Path [key]) (s : String) : Plain (.assign [key] (.text s)) :=
  .assign path (.scalar (.text s))

theorem plain_texts {key : String} (path : Path [key]) (items : List String) :
    Plain (.assign [key] (.array (items.map .text))) := by
  refine .assign path (.array fun v hv => ?_)
  obtain ⟨s, -, rfl⟩ := List.mem_map.mp hv
  exact .text s

theorem RecencyBucket.plain {b : RecencyBucket} (age : isInteger b.maxAgeDays = true)
    (live : Settings.isLiveScore b.score = true) : ∀ st ∈ b.statements, Plain st := by
  rw [statements, List.forall_mem_cons, List.forall_mem_cons, List.forall_mem_singleton]
  exact ⟨.element (by decide), .assign (by decide) (.scalar (.integer age)),
    plain_score (by decide) live⟩

theorem PacketSettings.plain {p : PacketSettings} (task : p.taskPercent < 2 ^ 63)
    (convention : p.conventionPercent < 2 ^ 63) (floor : p.splitFloorPercent < 2 ^ 63)
    (full : p.fullContentPercent < 2 ^ 63) : ∀ st ∈ p.statements, Plain st := by
  simp only [statements, List.forall_mem_cons, List.not_mem_nil, false_implies, implies_true,
    and_true]
  exact ⟨.table (by decide), plain_count (by decide) task, plain_count (by decide) convention,
    plain_count (by decide) floor, plain_count (by decide) full, plain_text (by decide) _⟩

theorem ScoringSettings.plain {s : ScoringSettings} (stale : Settings.isLiveScore s.staleScore = true)
    (saturation : s.relevanceSaturation < 2 ^ 63) (length : s.minKeywordLength < 2 ^ 63)
    (buckets : ∀ b ∈ s.recencyBuckets, ∀ st ∈ b.statements, Plain st) :
    ∀ st ∈ s.statements, Plain st := by
  have tail : ∀ st ∈ s.bucketStatements, Plain st := by
    unfold bucketStatements
    split
    · rw [List.forall_mem_singleton]
      exact .assign (by decide) (.array nofun)
    · intro st hst
      obtain ⟨b, hb, hst⟩ := List.mem_flatMap.mp hst
      exact buckets b hb st hst
  simp only [statements, List.forall_mem_append, List.forall_mem_cons, List.not_mem_nil,
    false_implies, implies_true, and_true]
  exact ⟨⟨.table (by decide), plain_score (by decide) stale, plain_count (by decide) saturation,
    plain_count (by decide) length, plain_texts (by decide) _⟩, tail⟩

def Settings.counts (s : Settings) : List Nat :=
  [s.tokenBudget, s.scoring.relevanceSaturation, s.scoring.minKeywordLength, s.agent.cooldownSeconds]

structure PacketSettings.Sized (p : PacketSettings) : Prop where
  task : p.taskPercent < 2 ^ 32
  convention : p.conventionPercent < 2 ^ 32

theorem Settings.forall_counts {s : Settings} {P : Nat → Prop} :
    (∀ n ∈ s.counts, P n) ↔ P s.tokenBudget ∧ P s.scoring.relevanceSaturation ∧
      P s.scoring.minKeywordLength ∧ P s.agent.cooldownSeconds := by
  simp [counts]

theorem Settings.plain {s : Settings} (valid : s.Valid) (sized : s.packet.Sized)
    (ages : ∀ b ∈ s.scoring.recencyBuckets, isInteger b.maxAgeDays = true)
    (small : ∀ n ∈ s.counts, n < 2 ^ 63) : ∀ st ∈ s.statements, Plain st := by
  obtain ⟨budget, saturation, length, cooldown⟩ := forall_counts.mp small
  obtain ⟨task, convention⟩ := sized
  have floor := valid.splitFloor
  have full := valid.fullContent
  have packet := PacketSettings.plain (p := s.packet) (by omega) (by omega) (by omega) (by omega)
  have scoring := ScoringSettings.plain valid.staleScore saturation length fun b hb =>
    RecencyBucket.plain (ages b hb) (valid.bucketScores b hb)
  simp only [statements, List.forall_mem_append, List.forall_mem_cons, List.not_mem_nil,
    false_implies, implies_true, and_true]
  exact ⟨⟨⟨⟨plain_text (by decide) _, plain_count (by decide) budget⟩, packet⟩, scoring⟩,
    .table (by decide), plain_count (by decide) cooldown⟩

end plain

section without

def PacketSettings.without (gone : String → Bool) (p : PacketSettings) : PacketSettings :=
  let d : PacketSettings := {}
  { taskPercent := if gone "task_pct" then d.taskPercent else p.taskPercent
    conventionPercent := if gone "convention_pct" then d.conventionPercent else p.conventionPercent
    splitFloorPercent := if gone "split_floor_pct" then d.splitFloorPercent else p.splitFloorPercent
    fullContentPercent :=
      if gone "full_content_pct" then d.fullContentPercent else p.fullContentPercent
    instruction := if gone "instruction" then d.instruction else p.instruction }

def ScoringSettings.without (gone : String → Bool) (s : ScoringSettings) : ScoringSettings :=
  let d : ScoringSettings := {}
  { staleScore := if gone "stale_score" then d.staleScore else s.staleScore
    relevanceSaturation :=
      if gone "relevance_saturation" then d.relevanceSaturation else s.relevanceSaturation
    minKeywordLength := if gone "min_keyword_len" then d.minKeywordLength else s.minKeywordLength
    stopWords := if gone "stop_words" then d.stopWords else s.stopWords
    recencyBuckets := if gone "recency_buckets" then d.recencyBuckets else s.recencyBuckets }

def AgentSettings.without (gone : String → Bool) (a : AgentSettings) : AgentSettings :=
  let d : AgentSettings := {}
  { cooldownSeconds := if gone "cooldown_secs" then d.cooldownSeconds else a.cooldownSeconds }

def Settings.without (d : Deletion) (s : Settings) : Settings :=
  let fallback : Settings := {}
  { contextDirectory :=
      if d.covers ["context_dir"] then fallback.contextDirectory else s.contextDirectory
    tokenBudget := if d.covers ["token_budget"] then fallback.tokenBudget else s.tokenBudget
    packet := s.packet.without fun key => d.covers ["packet", key]
    scoring := s.scoring.without fun key => d.covers ["scoring", key]
    agent := s.agent.without fun key => d.covers ["agent", key] }

end without

namespace Settings

section fields

variable {α : Type} {read : Value → Option α} {v : Value} {x : α}

theorem field_kept (es : Entries) (key : String) (found : es.lookup key = some v)
    (fits : read v = some x) (gone : String → Bool) (fallback : α) :
    field (es.filter fun e => !gone e.1) key (some fallback) read =
      .ok (if gone key then fallback else x) := by
  rw [field, lookup_filter]
  cases gone key with
  | true => rfl
  | false => simp [found, fits]

theorem readNat_natCast {limit n : Nat} (fits : n < limit) : readNat limit (.integer n) = some n := by
  rw [readNat, if_pos ⟨Int.natCast_nonneg n, Int.ofNat_lt.mpr fits⟩, Int.toNat_natCast]

theorem readText_text (s : String) : readText (.text s) = some s := rfl

theorem readFloat_float (x : Binary64) : readFloat (.float x) = some x := rfl

theorem readTexts_map (items : List String) : readTexts (.array (items.map .text)) = some items := by
  rw [readTexts]
  induction items with
  | nil => rfl
  | cons s items ih => rw [List.map_cons, List.mapM_cons, ih]; rfl

theorem readBucket_pairs (b : RecencyBucket) : readBucket (.table .header b.pairs) = some b := rfl

theorem readBuckets_bucketsValue (s : ScoringSettings) :
    readBuckets s.bucketsValue = some s.recencyBuckets := by
  have all (buckets : List RecencyBucket) :
      ((buckets.map RecencyBucket.pairs).map (Value.table .header)).mapM readBucket =
        some buckets := by
    induction buckets with
    | nil => rfl
    | cons b buckets ih =>
        rw [List.map_cons, List.map_cons, List.mapM_cons, readBucket_pairs, ih]
        rfl
  unfold ScoringSettings.bucketsValue
  split
  · rename_i none
    rw [none]
    rfl
  · exact all s.recencyBuckets

theorem packetOf_kept {p : PacketSettings} (task : p.taskPercent < percentLimit)
    (convention : p.conventionPercent < percentLimit) (floor : p.splitFloorPercent < percentLimit)
    (full : p.fullContentPercent < percentLimit) (gone : String → Bool) :
    packetOf (p.part.entries.filter fun e => !gone e.1) = .ok (p.without gone) := by
  rw [packetOf, field_kept p.part.entries "task_pct" rfl (readNat_natCast task),
    field_kept p.part.entries "convention_pct" rfl (readNat_natCast convention),
    field_kept p.part.entries "split_floor_pct" rfl (readNat_natCast floor),
    field_kept p.part.entries "full_content_pct" rfl (readNat_natCast full),
    field_kept p.part.entries "instruction" rfl (readText_text p.instruction)]
  rfl

theorem scoringOf_kept {s : ScoringSettings} (saturation : s.relevanceSaturation < countLimit)
    (length : s.minKeywordLength < countLimit) (gone : String → Bool) :
    scoringOf (s.part.entries.filter fun e => !gone e.1) = .ok (s.without gone) := by
  have entries := s.entries_part
  rw [scoringOf, field_kept s.part.entries "stale_score" (by rw [entries]; rfl) (readFloat_float _),
    field_kept s.part.entries "relevance_saturation" (by rw [entries]; rfl)
      (readNat_natCast saturation),
    field_kept s.part.entries "min_keyword_len" (by rw [entries]; rfl) (readNat_natCast length),
    field_kept s.part.entries "stop_words" (by rw [entries]; rfl) (readTexts_map s.stopWords),
    field_kept s.part.entries "recency_buckets" (by rw [entries]; rfl)
      (readBuckets_bucketsValue s)]
  rfl

theorem agentOf_kept {a : AgentSettings} (cooldown : a.cooldownSeconds < countLimit)
    (gone : String → Bool) :
    agentOf (a.part.entries.filter fun e => !gone e.1) = .ok (a.without gone) := by
  rw [agentOf, field_kept a.part.entries "cooldown_secs" rfl (readNat_natCast cooldown)]
  rfl

theorem filter_covers (d : Deletion) (p : Part) :
    (if d.keys p.name then [] else (d.part p).entries) =
      p.entries.filter fun e => !d.covers [p.name, e.1] := by
  rw [d.entries_part]
  cases gone : d.keys p.name with
  | true => simp [Deletion.covers, gone]
  | false => simp [Deletion.covers, gone]

theorem sectionFields_kept (d : Deletion) (p : Part) {es : Entries}
    (found : es.lookup p.name = some (.table .header (d.part p).entries)) (names : List String) :
    sectionFields (es.filter fun e => !d.keys e.1) p.name names =
      .ok (p.entries.filter fun e => !d.covers [p.name, e.1]) := by
  have fits : fields names (.table .header (d.part p).entries) = some (d.part p).entries := rfl
  rw [sectionFields, field_kept es p.name found fits, filter_covers]

theorem ofEntries_kept {s : Settings} (valid : s.Valid) (sized : s.packet.Sized)
    (small : ∀ n ∈ s.counts, n < countLimit) (d : Deletion) :
    ofEntries (d.outline s.outline).entries = .ok (s.without d) := by
  obtain ⟨budget, saturation, length, cooldown⟩ := forall_counts.mp small
  obtain ⟨task, convention⟩ := sized
  have floor := valid.splitFloor
  have full := valid.fullContent
  have limit : percentLimit = 2 ^ 32 := by decide
  rw [d.entries_outline]
  generalize held : s.outline.pairs ++ s.outline.parts.map _ = es
  have packet : sectionFields (es.filter fun e => !d.keys e.1) "packet" packetFields =
      .ok (s.packet.part.entries.filter fun e => !d.covers ["packet", e.1]) :=
    sectionFields_kept d s.packet.part (held ▸ rfl) packetFields
  have scoring : sectionFields (es.filter fun e => !d.keys e.1) "scoring" scoringFields =
      .ok (s.scoring.part.entries.filter fun e => !d.covers ["scoring", e.1]) :=
    sectionFields_kept d s.scoring.part (held ▸ rfl) scoringFields
  have agent : sectionFields (es.filter fun e => !d.keys e.1) "agent" ["cooldown_secs"] =
      .ok (s.agent.part.entries.filter fun e => !d.covers ["agent", e.1]) :=
    sectionFields_kept d s.agent.part (held ▸ rfl) ["cooldown_secs"]
  have packetKept := packetOf_kept (p := s.packet) (by omega) (by omega) (by omega) (by omega)
    fun key => d.covers ["packet", key]
  have scoringKept := scoringOf_kept saturation length fun key => d.covers ["scoring", key]
  have agentKept := agentOf_kept cooldown fun key => d.covers ["agent", key]
  rw [ofEntries, field_kept es "context_dir" (held ▸ rfl) (readText_text s.contextDirectory),
    field_kept es "token_budget" (held ▸ rfl) (readNat_natCast budget), packet, scoring, agent]
  simp only [bind, Except.bind, packetKept, scoringKept, agentKept]
  rfl

end fields

section reload

theorem loadFrom_text {disk : Disk} {path text : String} (holds : disk.readText path = .ok text) :
    loadFrom disk path =
      match ofToml text with
      | .error fault => .error (.malformed path fault.message)
      | .ok s => validated s := by
  have present : disk.present path = true := by
    rw [Disk.readText] at holds
    rw [Disk.present]
    cases found : disk.node path with
    | ok node => rfl
    | error fault =>
        rw [found] at holds
        cases holds
  rw [loadFrom, present, holds]
  rfl

def remaining (s : Settings) (d : Deletion) : String :=
  String.ofList (writeStatements (d.left [] s.statements))

theorem without_nothing (s : Settings) : s.without .nothing = s := rfl

theorem writable_of_plain {st : Statement} (h : Plain st) : Writable st = true := by
  cases h with
  | table => rfl
  | element => rfl
  | assign _ readable =>
      cases readable with
      | array => rfl
      | scalar h =>
          cases h with
          | text => rfl
          | integer fits => exact fits
          | float => rfl

theorem toToml?_large (s : Settings) (large : ∃ n ∈ s.counts, 2 ^ 63 ≤ n) : s.toToml? = none := by
  obtain ⟨n, hn, large⟩ := large
  have written : ∃ key, .assign [key] (.integer n) ∈ s.statements := by
    simp only [counts, List.mem_cons, List.not_mem_nil, or_false] at hn
    rcases hn with rfl | rfl | rfl | rfl
    · exact ⟨"token_budget", by simp [statements]⟩
    · exact ⟨"relevance_saturation", by simp [statements, ScoringSettings.statements]⟩
    · exact ⟨"min_keyword_len", by simp [statements, ScoringSettings.statements]⟩
    · exact ⟨"cooldown_secs", by simp [statements]⟩
  obtain ⟨key, written⟩ := written
  have unfit : ¬ s.statements.all Writable = true := by
    intro all
    have fits := List.all_eq_true.mp all _ written
    rw [Writable, isInteger_natCast] at fits
    exact Nat.not_lt.mpr large fits
  rw [toToml?, if_neg unfit]

variable {s : Settings} (valid : s.Valid) (sized : s.packet.Sized)
  (ages : ∀ b ∈ s.scoring.recencyBuckets, isInteger b.maxAgeDays = true)
  (small : ∀ n ∈ s.counts, n < 2 ^ 63)
include valid sized ages small

theorem toToml?_small : s.toToml? = some (s.remaining .nothing) := by
  have fits : s.statements.all Writable = true :=
    List.all_eq_true.mpr fun st hst => writable_of_plain (s.plain valid sized ages small st hst)
  rw [toToml?, if_pos fits, remaining, Deletion.left_nothing]

theorem loadFrom_remaining (d : Deletion) {disk : Disk} {path : String}
    (holds : disk.readText path = .ok (s.remaining d)) :
    loadFrom disk path = validated (s.without d) := by
  have plain : ∀ st ∈ d.left [] s.statements, Plain st :=
    fun st hst => s.plain valid sized ages small st (d.mem_of_mem_left [] hst)
  have limit : 2 ^ 63 ≤ countLimit := by decide
  have entries := ofEntries_kept valid sized (fun n hn => Nat.lt_of_lt_of_le (small n hn) limit) d
  have built := build_statements (d.proper_outline s.proper_outline)
  have read : ofToml (s.remaining d) = .ok (s.without d) := by
    rw [← d.left_statements, s.statements_outline] at built
    rw [ofToml, Toml.read, remaining, readDocument_write plain]
    simp only [bind, Except.bind, built, Except.mapError, entries]
  rw [loadFrom_text holds, read]

end reload

/-- A file of written settings gives them back, and one that has lost some keys gives the defaults
for these. -/
structure Reloads (s : Settings) : Prop where
  whole : (∀ n ∈ s.counts, n < 2 ^ 63) →
    ∃ text, s.toToml? = some text ∧ text = s.remaining .nothing ∧
      ∀ (disk : Disk) (path : String), disk.readText path = .ok text → loadFrom disk path = .ok s
  shortened : (∀ n ∈ s.counts, n < 2 ^ 63) → ∀ (d : Deletion) (disk : Disk) (path : String),
    disk.readText path = .ok (s.remaining d) → loadFrom disk path = validated (s.without d)
  unwritten : (∃ n ∈ s.counts, 2 ^ 63 ≤ n) → s.toToml? = none

theorem settings_reload {s : Settings} (accepted : s.fault? = none) (sized : s.packet.Sized)
    (ages : ∀ b ∈ s.scoring.recencyBuckets, isInteger b.maxAgeDays = true) : s.Reloads where
  whole := by
    intro small
    have valid := fault?_eq_none_iff.mp accepted
    refine ⟨s.remaining .nothing, toToml?_small valid sized ages small, rfl, fun disk path holds => ?_⟩
    rw [loadFrom_remaining valid sized ages small .nothing holds, without_nothing, validated, accepted]
  shortened := by
    intro small d disk path holds
    exact loadFrom_remaining (fault?_eq_none_iff.mp accepted) sized ages small d holds
  unwritten := toToml?_large s

def quoted : Settings :=
  { contextDirectory := "it's\t\"here\"", tokenBudget := 2 ^ 63 - 1
    packet := { taskPercent := 0, instruction := "''' \u0000 \"\"\"\r\n\\\\ é" }
    scoring := { stopWords := ["", "a\nb", "\\d"], recencyBuckets := [] } }

def unscored : Deletion where
  keys key := key == "scoring"
  fields name key := name == "packet" && key == "task_pct"

def holding (text : String) : Disk where
  root := .directory ⟨0o755, ⟨0, 0⟩⟩ [(localFile, .file ⟨0o644, ⟨0, 0⟩⟩ (some text))]
  current := []

theorem readText_holding (text : String) : (holding text).readText localFile = .ok text := by
  have found : (holding text).node localFile = .ok (.file ⟨0o644, ⟨0, 0⟩⟩ (some text)) := rfl
  have readable : (⟨0o644, ⟨0, 0⟩⟩ : Stamp).readable = true := by decide
  simp [Disk.readText, found, Node.stamp, readable, bind, Except.bind]

theorem settings_reload_quoted :
    quoted.fault? = none ∧ quoted.packet.Sized ∧
      (∀ b ∈ quoted.scoring.recencyBuckets, isInteger b.maxAgeDays = true) ∧
      (∃ text, quoted.toToml? = some text ∧ loadFrom (holding text) localFile = .ok quoted) ∧
      loadFrom (holding (quoted.remaining unscored)) localFile =
        .ok { quoted with packet := { quoted.packet with taskPercent := 40 }, scoring := {} } := by
  have accepted : quoted.fault? = none := by decide +kernel
  have sized : quoted.packet.Sized := ⟨by decide, by decide⟩
  have ages : ∀ b ∈ quoted.scoring.recencyBuckets, isInteger b.maxAgeDays = true := nofun
  have small : ∀ n ∈ quoted.counts, n < 2 ^ 63 := by decide +kernel
  have reloads := settings_reload accepted sized ages
  obtain ⟨text, written, -, loads⟩ := reloads.whole small
  refine ⟨accepted, sized, ages, ⟨text, written, loads _ _ (readText_holding text)⟩, ?_⟩
  have rest : (quoted.without unscored).fault? = none := by decide +kernel
  rw [reloads.shortened small unscored _ _ (readText_holding _), validated, rest]
  rfl

end Settings

end Briefing
