import Briefing.Json
import Briefing.Packet

namespace Briefing

def Packet.toJson (p : Packet) (generated : Instant) : Json :=
  .object
    [("generated", .text generated.text),
     ("budget", .ofNat p.budget),
     ("tokens_used", .ofNat p.tokensUsed),
     ("read_order", .ofTexts p.readOrder),
     ("constitution", .ofTexts p.constitution),
     ("tasks", .ofTexts p.tasks),
     ("conventions", .ofTexts p.conventions),
     ("decisions", .ofTexts p.decisions),
     ("learnings", .ofTexts p.learnings),
     ("summaries", .ofTexts p.summaries),
     ("instruction", .text p.instruction)]

def Packet.jsonText (p : Packet) (generated : Instant) : String := (p.toJson generated).prettyText

def Entry.toJson (e : Entry) : Json :=
  .object
    [("header", .object
       [("timestamp", .text e.header.timestamp),
        ("date", .text e.header.date),
        ("title", .text e.header.title)]),
     ("lines", .ofTexts e.lines),
     ("superseded", .bool e.superseded)]

end Briefing
