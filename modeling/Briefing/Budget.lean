import Briefing.Scoring

namespace Briefing.Budget

/-- Token counts have 64 bits, and a quotient that needs more loses the high ones. -/
def narrow (n : Nat) : Nat := n % (1 <<< 64)

def percentOf (value percent : Nat) : Nat := narrow (value * percent / 100)

def proportion (value part whole : Nat) : Nat := narrow (value * part / whole)

def affordable (budget : Nat) : List String → List String
  | [] => []
  | item :: items =>
      if tokens item ≤ budget then item :: affordable (budget - tokens item) items else []

/-- Where not even the first item is affordable, it is taken all the same. -/
def fit (budget : Nat) (items : List String) : List String :=
  match affordable budget items with
  | [] => items.take 1
  | kept => kept

def need (entries : List ScoredEntry) : Nat := sumOver ScoredEntry.tokens entries

def shareAboveFloor (total floorPercent needA needB : Nat) : Nat :=
  let floor := percentOf total (min floorPercent 50)
  floor + proportion (total - 2 * floor) needA (needA + needB)

def firstShare (total floorPercent needA needB : Nat) : Nat :=
  if needA + needB = 0 then total / 2
  else if needA + needB ≤ total then proportion total needA (needA + needB)
  else shareAboveFloor total floorPercent needA needB

def split (total : Nat) (a b : List ScoredEntry) (floorPercent : Nat) : Nat × Nat :=
  match a, b with
  | [], [] => (0, 0)
  | [], _ => (0, total)
  | _, [] => (total, 0)
  | _, _ =>
      let share := firstShare total floorPercent (need a) (need b)
      (share, total - share)

structure Section where
  bodies : List String
  titles : List String
  deriving DecidableEq, Repr

namespace Section

def empty : Section := ⟨[], []⟩

def tokens (s : Section) : Nat := totalTokens s.bodies + totalTokens s.titles

def size (s : Section) : Nat := s.bodies.length + s.titles.length

/-- Goes through the entries in order and takes each body that `budget` still pays for. What is too
large is named by its title, and superseded entries are left out. -/
def take (budget : Nat) : List ScoredEntry → Section
  | [] => empty
  | e :: es =>
      if e.score.isZero then take budget es
      else if e.tokens ≤ budget then
        let rest := take (budget - e.tokens) es
        ⟨e.entry.content :: rest.bodies, rest.titles⟩
      else
        let rest := take budget es
        ⟨rest.bodies, e.entry.title :: rest.titles⟩

def fill (entries : List ScoredEntry) (budget fullPercent : Nat) : Section :=
  if budget = 0 then empty else take (percentOf budget fullPercent) entries

end Section

end Briefing.Budget
