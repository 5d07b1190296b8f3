import Briefing.Settings

namespace Briefing

inductive SettingsFault where
  | percentSum
  | splitFloor
  | fullContent
  | bucketOrder
  | scoreRange
  | noSaturation
  deriving DecidableEq, Repr

def SettingsFault.message : SettingsFault → String
  | .percentSum => "packet.task_pct + packet.convention_pct must not exceed 100"
  | .splitFloor => "packet.split_floor_pct must be at most 50"
  | .fullContent => "packet.full_content_pct must be at most 100"
  | .bucketOrder => "scoring.recency_buckets must be strictly ascending by max_age_days"
  | .scoreRange => "recency scores must be greater than 0.0 and at most 1.0"
  | .noSaturation => "scoring.relevance_saturation must be > 0"

namespace Settings

def ascending : List RecencyBucket → Bool
  | [] => true
  | [_] => true
  | a :: b :: rest => a.maxAgeDays < b.maxAgeDays && ascending (b :: rest)

/-- Zero is kept for superseded entries. -/
def isLiveScore (x : Binary64) : Bool := Binary64.zero.lt x && x.le Binary64.one

/-- Percentages have 32 bits, and a sum that needs more loses the high ones. -/
def percentSum (p : PacketSettings) : Nat := (p.taskPercent + p.conventionPercent) % (1 <<< 32)

def rules (s : Settings) : List (Bool × SettingsFault) :=
  [(percentSum s.packet ≤ 100, .percentSum),
   (s.packet.splitFloorPercent ≤ 50, .splitFloor),
   (s.packet.fullContentPercent ≤ 100, .fullContent),
   (ascending s.scoring.recencyBuckets, .bucketOrder),
   (isLiveScore s.scoring.staleScore &&
      s.scoring.recencyBuckets.all fun b => isLiveScore b.score, .scoreRange),
   (s.scoring.relevanceSaturation != 0, .noSaturation)]

def firstBroken : List (Bool × SettingsFault) → Option SettingsFault
  | [] => none
  | (kept, fault) :: rest => if kept then firstBroken rest else some fault

def fault? (s : Settings) : Option SettingsFault := firstBroken s.rules

end Settings

end Briefing
