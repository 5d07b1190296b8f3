import Briefing.Text.Blank
import Briefing.Text.Lines

namespace Briefing.Items

def unchecked : List Char := "- [ ]".toList

def checkedMarks : List (List Char) := ["- [x]".toList, "- [X]".toList]

def bulletMarks : List (List Char) := ["- ".toList, "* ".toList]

def trimmedLines (text : String) : List (List Char) :=
  (Text.lines text).map fun l => Text.trim l.toList

def isUnchecked (line : List Char) : Bool := unchecked.isPrefixOf line

def isChecked (line : List Char) : Bool := checkedMarks.any (·.isPrefixOf line)

def textAfter (marks : List (List Char)) (line : List Char) : Option String :=
  match marks.findSome? (·.isPrefixOf? line) with
  | none => none
  | some rest => if Text.trim rest = [] then none else some (String.ofList (Text.trim rest))

def bulletText (line : List Char) : Option String := textAfter bulletMarks line

def ruleText (line : List Char) : Option String :=
  if isUnchecked line || isChecked line then textAfter (unchecked :: checkedMarks) line
  else bulletText line

def activeTasks (text : String) : List String :=
  ((trimmedLines text).filter isUnchecked).map String.ofList

def completedTasks (text : String) : Nat := (trimmedLines text).countP isChecked

def rules (text : String) : List String := (trimmedLines text).filterMap ruleText

def bullets (text : String) : List String := (trimmedLines text).filterMap bulletText

end Briefing.Items
