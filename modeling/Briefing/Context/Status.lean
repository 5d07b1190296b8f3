import Briefing.Context
import Briefing.Text.Column

namespace Briefing.Context

def counted (n : Nat) (noun : String) : String :=
  if n = 1 then "1 " ++ noun else toString n ++ " " ++ noun ++ "s"

def entrySummary (content noun : String) : String :=
  let entries := Entry.blocks content
  let superseded := entries.countP (·.superseded)
  counted entries.length noun ++
    if superseded = 0 then "" else " (" ++ toString superseded ++ " superseded)"

def taskSummary (content : String) : String :=
  toString (Items.activeTasks content).length ++ " active, " ++
    toString (Items.completedTasks content) ++ " completed"

def summary (f : ContextFile) : String :=
  if f.isEmpty then "empty"
  else if f.name = tasksFile then taskSummary f.content
  else if f.name = constitutionFile then counted (Items.rules f.content).length "rule"
  else if f.name = conventionsFile then counted (Items.bullets f.content).length "convention"
  else if f.name = decisionsFile then entrySummary f.content "decision"
  else if f.name = learningsFile then entrySummary f.content "learning"
  else "loaded"

def fileLine (f : ContextFile) : String :=
  "  " ++ Text.alignLeft 20 f.name ++ " " ++ Text.alignRight 7 (toString f.tokens) ++ " tokens  " ++
    summary f ++ "\n"

def trimWarning : String :=
  "\n  ⚠️  Context exceeds the token budget; packets will be trimmed\n"

def status (c : Context) (budget : Nat) : String :=
  "ctxpack Status\n==============\n" ++
    "  Context dir:  " ++ c.directory ++ "\n" ++
    "  Files:        " ++ toString c.files.length ++ "\n" ++
    "  Tokens:       ~" ++ toString c.totalTokens ++ "\n" ++
    "  Budget:       " ++ toString budget ++ "\n\n" ++
    String.join (c.files.map fileLine) ++
    if budget < c.totalTokens then trimWarning else ""

end Briefing.Context
