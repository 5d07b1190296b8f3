import Briefing.Settings
import Briefing.Text.Blank

namespace Briefing

def readCount (s : List Char) : Option Nat :=
  let digits := match s with
    | '+' :: rest => rest
    | rest => rest
  if digits ≠ [] ∧ digits.all Char.isDigit ∧ Nat.ofDigitChars 10 digits 0 < 1 <<< 64 then
    some (Nat.ofDigitChars 10 digits 0)
  else none

namespace Settings

def effectiveDirectory (directory : Option String) : Option String :=
  directory.filter fun d => !Text.blankText d

def effectiveBudget (budget : Option String) : Option Nat :=
  budget.bind fun b => readCount (Text.trim b.toList)

def override (s : Settings) (directory budget : Option String) : Settings :=
  { s with
    contextDirectory := (effectiveDirectory directory).getD s.contextDirectory
    tokenBudget := (effectiveBudget budget).getD s.tokenBudget }

end Settings

end Briefing
