import Briefing.Binary64.Basic

namespace Briefing

structure RecencyBucket where
  maxAgeDays : Int
  score : Binary64
  deriving DecidableEq, Repr

/-- How the budget is shared. Percentages are of the whole budget, but for the last one, which is of
what a section is given. -/
structure PacketSettings where
  taskPercent : Nat := 40
  conventionPercent : Nat := 20
  splitFloorPercent : Nat := 30
  fullContentPercent : Nat := 80
  instruction : String :=
    "Before starting work, confirm to the user: \"I have read the required context files and I'm following project conventions.\""
  deriving DecidableEq, Repr

def defaultStopWords : List String :=
  ["the", "and", "for", "with", "from", "into", "onto", "that", "this", "these", "those",
   "are", "was", "were", "been", "being", "has", "have", "had", "not", "but", "all", "any",
   "can", "will", "should", "would", "could", "may", "might", "must", "its", "our", "their",
   "they", "them", "then", "than", "when", "what", "which", "who", "whom", "how", "why",
   "where", "you", "your", "also", "each", "via", "per", "about", "after", "before", "over",
   "under", "out", "off", "only", "some", "such", "very", "just", "more", "most", "other",
   "does", "did", "doing", "there", "here", "use", "using"]

def defaultRecencyBuckets : List RecencyBucket :=
  [⟨7, Binary64.one⟩, ⟨30, Binary64.ofRatio 7 10⟩, ⟨90, Binary64.ofRatio 4 10⟩]

structure ScoringSettings where
  staleScore : Binary64 := Binary64.ofRatio 2 10
  relevanceSaturation : Nat := 3
  minKeywordLength : Nat := 3
  stopWords : List String := defaultStopWords
  recencyBuckets : List RecencyBucket := defaultRecencyBuckets
  deriving DecidableEq, Repr

structure AgentSettings where
  cooldownSeconds : Nat := 600
  deriving DecidableEq, Repr

structure Settings where
  contextDirectory : String := ".context"
  tokenBudget : Nat := 8000
  packet : PacketSettings := {}
  scoring : ScoringSettings := {}
  agent : AgentSettings := {}
  deriving DecidableEq, Repr

end Briefing
