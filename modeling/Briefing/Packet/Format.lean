import Briefing.Packet.Data
import Briefing.Packet.Markdown

namespace Briefing

inductive Format where
  | markdown
  | json
  deriving DecidableEq, Repr

instance : Inhabited Format := ⟨.markdown⟩

namespace Format

def name : Format → String
  | .markdown => "md"
  | .json => "json"

def lowerAscii (s : String) : String := String.ofList (s.toList.map Char.toLower)

def read (s : String) : Except String Format :=
  let name := lowerAscii s
  if name = "md" ∨ name = "markdown" then .ok .markdown
  else if name = "json" then .ok .json
  else .error name

def unknownMessage (name : String) : String :=
  "unknown output format '" ++ name ++ "' (expected md or json)"

end Format

def Packet.render (p : Packet) (generated : Instant) : Format → String
  | .markdown => p.markdown generated
  | .json => p.jsonText generated ++ "\n"

end Briefing
