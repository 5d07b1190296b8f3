import Briefing.Packet
import Briefing.Text.Column

namespace Briefing.Packet

def tierRow (name tokens items : String) : String :=
  "  " ++ Text.alignLeft 12 name ++ " " ++ Text.alignRight 7 tokens ++ "  " ++
    Text.alignRight 9 items ++ "\n"

def tierLine (t : Tier) : String :=
  tierRow t.name (toString t.tokens) (toString t.included ++ "/" ++ toString t.total)

def skippedTiers (p : Packet) : Nat := Tier.names.length - p.tiers.length

def skippedLine (count : Nat) : String :=
  if count = 0 then "" else "  (" ++ toString count ++ " tier(s) skipped: budget exhausted)\n"

def tierReport (p : Packet) : String :=
  "Budget: " ++ toString p.budget ++ " tokens | Used: ~" ++ toString p.tokensUsed ++ "\n" ++
    tierRow "tier" "tokens" "items" ++ String.join (p.tiers.map tierLine) ++
    skippedLine p.skippedTiers

end Briefing.Packet
