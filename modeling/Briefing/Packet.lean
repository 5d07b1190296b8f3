import Briefing.Budget
import Briefing.Keywords

namespace Briefing

structure Sources where
  readOrder : List String := []
  constitution : List String := []
  tasks : List String := []
  conventions : List String := []
  decisions : List Entry := []
  learnings : List Entry := []
  deriving DecidableEq, Repr

structure Tier where
  name : String
  tokens : Nat
  included : Nat
  total : Nat
  deriving DecidableEq, Repr

def Tier.names : List String := ["foundation", "tasks", "conventions", "decisions", "learnings"]

structure Packet where
  readOrder : List String
  constitution : List String
  tasks : List String
  conventions : List String
  decisions : List String
  learnings : List String
  summaries : List String
  instruction : String
  budget : Nat
  tokensUsed : Nat
  tiers : List Tier
  deriving DecidableEq, Repr

namespace Packet

def emittedTokens (p : Packet) : Nat :=
  totalTokens p.readOrder + totalTokens p.constitution + tokens p.instruction +
    totalTokens p.tasks + totalTokens p.conventions + totalTokens p.decisions +
    totalTokens p.learnings + totalTokens p.summaries

def counted (p : Packet) : Packet := { p with tokensUsed := p.emittedTokens }

end Packet

end Briefing
