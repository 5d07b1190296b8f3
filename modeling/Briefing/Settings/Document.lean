import Briefing.Settings
import Briefing.Toml.Writer

namespace Briefing

open Toml

def RecencyBucket.statements (b : RecencyBucket) : List Statement :=
  [.element ["scoring", "recency_buckets"],
   .assign ["max_age_days"] (.integer b.maxAgeDays),
   .assign ["score"] (.float b.score)]

def PacketSettings.statements (p : PacketSettings) : List Statement :=
  [.table ["packet"],
   .assign ["task_pct"] (.integer p.taskPercent),
   .assign ["convention_pct"] (.integer p.conventionPercent),
   .assign ["split_floor_pct"] (.integer p.splitFloorPercent),
   .assign ["full_content_pct"] (.integer p.fullContentPercent),
   .assign ["instruction"] (.text p.instruction)]

def ScoringSettings.bucketStatements (s : ScoringSettings) : List Statement :=
  match s.recencyBuckets with
  | [] => [.assign ["recency_buckets"] (.array [])]
  | buckets => buckets.flatMap RecencyBucket.statements

def ScoringSettings.statements (s : ScoringSettings) : List Statement :=
  [.table ["scoring"],
   .assign ["stale_score"] (.float s.staleScore),
   .assign ["relevance_saturation"] (.integer s.relevanceSaturation),
   .assign ["min_keyword_len"] (.integer s.minKeywordLength),
   .assign ["stop_words"] (.array (s.stopWords.map .text))] ++ s.bucketStatements

namespace Settings

def statements (s : Settings) : List Statement :=
  [.assign ["context_dir"] (.text s.contextDirectory),
   .assign ["token_budget"] (.integer s.tokenBudget)] ++
    s.packet.statements ++ s.scoring.statements ++
    [.table ["agent"], .assign ["cooldown_secs"] (.integer s.agent.cooldownSeconds)]

def Writable : Statement → Bool
  | .assign _ (.integer n) => isInteger n
  | _ => true

def toToml? (s : Settings) : Option String :=
  if s.statements.all Writable then some (String.ofList (writeStatements s.statements)) else none

def defaultToml : String := ((({} : Settings).toToml?)).getD ""

def readNat (limit : Nat) : Value → Option Nat
  | .integer n => if 0 ≤ n ∧ n < limit then some n.toNat else none
  | _ => none

def readInt : Value → Option Int
  | .integer n => some n
  | _ => none

def readFloat : Value → Option Binary64
  | .float x => some x
  | .integer n => some (Binary64.ofInt n)
  | _ => none

def readText : Value → Option String
  | .text s => some s
  | _ => none

def readTexts : Value → Option (List String)
  | .array items => items.mapM readText
  | _ => none

/-- The fields of a section. They may also be given without their names, in their order. -/
def fields (names : List String) : Value → Option Entries
  | .table _ entries => some entries
  | .tables elements => some (names.zip (elements.map (.table .header)))
  | .array items => some (names.zip items)
  | .moment _ => some []
  | _ => none

def field {α : Type} (entries : Entries) (key : String) (fallback : Option α)
    (read : Value → Option α) : Except DocumentFault α :=
  match (match entries.lookup key with
    | none => fallback
    | some v => read v) with
  | none => .error (.unfit key)
  | some x => .ok x

def readBucket (v : Value) : Option RecencyBucket :=
  match fields ["max_age_days", "score"] v with
  | none => none
  | some entries => do
      let age ← (entries.lookup "max_age_days").bind readInt
      let score ← (entries.lookup "score").bind readFloat
      some ⟨age, score⟩

def readBuckets : Value → Option (List RecencyBucket)
  | .array items => items.mapM readBucket
  | .tables elements => (elements.map (Value.table .header)).mapM readBucket
  | _ => none

def sectionFields (entries : Entries) (key : String) (names : List String) :
    Except DocumentFault Entries :=
  field entries key (some []) (fields names)

def packetFields : List String :=
  ["task_pct", "convention_pct", "split_floor_pct", "full_content_pct", "instruction"]

def scoringFields : List String :=
  ["stale_score", "relevance_saturation", "min_keyword_len", "stop_words", "recency_buckets"]

def percentLimit : Nat := 1 <<< 32

def countLimit : Nat := 1 <<< 64

def packetOf (es : Entries) : Except DocumentFault PacketSettings := do
  let d : PacketSettings := {}
  return {
    taskPercent := ← field es "task_pct" (some d.taskPercent) (readNat percentLimit)
    conventionPercent :=
      ← field es "convention_pct" (some d.conventionPercent) (readNat percentLimit)
    splitFloorPercent :=
      ← field es "split_floor_pct" (some d.splitFloorPercent) (readNat percentLimit)
    fullContentPercent :=
      ← field es "full_content_pct" (some d.fullContentPercent) (readNat percentLimit)
    instruction := ← field es "instruction" (some d.instruction) readText }

def scoringOf (es : Entries) : Except DocumentFault ScoringSettings := do
  let d : ScoringSettings := {}
  return {
    staleScore := ← field es "stale_score" (some d.staleScore) readFloat
    relevanceSaturation :=
      ← field es "relevance_saturation" (some d.relevanceSaturation) (readNat countLimit)
    minKeywordLength :=
      ← field es "min_keyword_len" (some d.minKeywordLength) (readNat countLimit)
    stopWords := ← field es "stop_words" (some d.stopWords) readTexts
    recencyBuckets := ← field es "recency_buckets" (some d.recencyBuckets) readBuckets }

def agentOf (es : Entries) : Except DocumentFault AgentSettings := do
  let d : AgentSettings := {}
  return {
    cooldownSeconds := ← field es "cooldown_secs" (some d.cooldownSeconds) (readNat countLimit) }

def ofEntries (es : Entries) : Except DocumentFault Settings := do
  let d : Settings := {}
  return {
    contextDirectory := ← field es "context_dir" (some d.contextDirectory) readText
    tokenBudget := ← field es "token_budget" (some d.tokenBudget) (readNat countLimit)
    packet := ← packetOf (← sectionFields es "packet" packetFields)
    scoring := ← scoringOf (← sectionFields es "scoring" scoringFields)
    agent := ← agentOf (← sectionFields es "agent" ["cooldown_secs"]) }

def ofToml (text : String) : Except DocumentFault Settings := do
  ofEntries (← Toml.read text)

end Settings

end Briefing
