import Briefing.Entry

namespace Briefing

namespace Header

/-- A shape is a text in which a zero stands for any digit and all else for itself. -/
def hasShape : List Char → List Char → Bool
  | [], [] => true
  | p :: ps, c :: cs => (if p = '0' then c.isDigit else c == p) && hasShape ps cs
  | _, _ => false

def opening : List Char := "## [".toList

def stampShape : List Char := "0000-00-00-000000] ".toList

def dateWidth : Nat := 10

def timestampWidth : Nat := 17

def read? (line : String) : Option Header :=
  match opening.isPrefixOf? (Text.trimEnd line.toList) with
  | none => none
  | some s =>
      let stamp := s.take stampShape.length
      let title := s.drop stampShape.length
      if hasShape stampShape stamp && !title.isEmpty && title.all (· != '\n') then
        some ⟨String.ofList (stamp.take timestampWidth), String.ofList (stamp.take dateWidth),
          String.ofList (Text.trim title)⟩
      else none

end Header

namespace Entry

def dropBlankTail : List String → List String
  | [] => []
  | l :: ls =>
      match dropBlankTail ls with
      | [] => if Text.blankText l then [] else [l]
      | kept => l :: kept

def gather : List String → List String × List Entry
  | [] => ([], [])
  | l :: ls =>
      let (body, entries) := gather ls
      match Header.read? l with
      | some h => ([], ofLines h (l :: dropBlankTail body) :: entries)
      | none => (l :: body, entries)

/-- Each header line starts an entry, which holds all lines up to the next header but the blank ones
at its end. -/
def blocks (text : String) : List Entry := (gather (Text.lines text)).2

end Entry

end Briefing
