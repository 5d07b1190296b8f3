import Briefing.Calendar.Date
import Briefing.Text.Lines

namespace Briefing

structure Header where
  timestamp : String
  date : String
  title : String
  deriving DecidableEq, Repr

structure Entry where
  header : Header
  lines : List String
  superseded : Bool
  deriving DecidableEq, Repr

namespace Entry

def supersededMark : List Char := "~~Superseded".toList

def marksSuperseded (line : String) : Bool :=
  supersededMark.isPrefixOf (Text.trim line.toList)

def ofLines (header : Header) (lines : List String) : Entry :=
  ⟨header, lines, lines.any marksSuperseded⟩

def title (e : Entry) : String := e.header.title

def content (e : Entry) : String := Text.unlines e.lines

def date? (e : Entry) : Option Date := Date.read? e.header.date.toList

end Entry

end Briefing
