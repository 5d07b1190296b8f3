import Briefing.Settings
import Briefing.Text.Alphanumeric
import Briefing.Text.Lowercase

namespace Briefing.Keywords

/-- The runs of letters and digits of a text, with an empty one between two neighbouring separators. -/
def pieces (text : String) : List String :=
  (text.toList.splitOnP fun c => !Text.isAlphanumeric c).map String.ofList

def stopWords (scoring : ScoringSettings) : List String := scoring.stopWords.map Text.lowercase

def candidates (minLength : Nat) (stops : List String) (text : String) : List String :=
  (((pieces text).filter fun p => minLength ≤ p.length).map Text.lowercase).filter
    fun w => !stops.contains w

def extract (scoring : ScoringSettings) (tasks : List String) : List String :=
  let stops := stopWords scoring
  (tasks.flatMap (candidates scoring.minKeywordLength stops)).eraseDups

end Briefing.Keywords
