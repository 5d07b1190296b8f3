import Briefing.Packet

namespace Briefing.Packet

def line (s : String) : String := s ++ "\n"

def heading (title : String) : String := line ("## " ++ title)

def itemSection (title : String) (render : String → String) (items : List String) : String :=
  if items = [] then "" else heading title ++ String.join (items.map render) ++ line ""

def bulletSection (title : String) (items : List String) : String :=
  itemSection title (fun item => line ("- " ++ item)) items

def taskSection (tasks : List String) : String := itemSection "Current Tasks" line tasks

def bodySection (title : String) (bodies : List String) : String :=
  if bodies = [] then "" else heading title ++ String.join (bodies.map fun body => line (line body))

def numbered (start : Nat) : List String → String
  | [] => ""
  | path :: paths => line (toString start ++ ". " ++ path) ++ numbered (start + 1) paths

def readingList (paths : List String) : String :=
  heading "Read These Files (in order)" ++ numbered 1 paths ++ line ""

def titleLine (p : Packet) (generated : Instant) : String :=
  line "# Context Packet" ++
    line ("Generated: " ++ generated.text ++ " | Budget: " ++ toString p.budget ++
      " tokens | Used: ~" ++ toString p.tokensUsed) ++ line ""

def markdown (p : Packet) (generated : Instant) : String :=
  p.titleLine generated ++ readingList p.readOrder ++
    bulletSection "Constitution (NEVER VIOLATE)" p.constitution ++
    taskSection p.tasks ++
    bulletSection "Key Conventions" p.conventions ++
    bodySection "Recent Decisions" p.decisions ++
    bodySection "Key Learnings" p.learnings ++
    bulletSection "Also Noted" p.summaries ++
    line p.instruction

end Briefing.Packet
