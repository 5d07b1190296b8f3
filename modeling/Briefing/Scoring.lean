import Briefing.Binary64.Basic
import Briefing.Calendar.Instant
import Briefing.Entry
import Briefing.Settings
import Briefing.Text.Lowercase
import Briefing.Text.Search
import Briefing.Tokens

namespace Briefing

structure ScoredEntry where
  entry : Entry
  score : Binary64
  tokens : Nat
  deriving DecidableEq, Repr

namespace Scoring

def ageInDays (date : Date) (now : Instant) : Int := now.dayNumber - date.dayNumber

def bucketScore (age : Int) : List RecencyBucket → Option Binary64
  | [] => none
  | b :: bs => if age ≤ b.maxAgeDays then some b.score else bucketScore age bs

def recency (scoring : ScoringSettings) (now : Instant) (e : Entry) : Binary64 :=
  match e.date? with
  | none => scoring.staleScore
  | some date => (bucketScore (ageInDays date now) scoring.recencyBuckets).getD scoring.staleScore

def matchedKeywords (keywords : List String) (e : Entry) : List String :=
  let text := Text.lowercase e.content
  ((keywords.map Text.lowercase).filter fun k => !k.isEmpty && Text.contains k text).eraseDups

def saturate (n saturation : Nat) : Binary64 :=
  (Binary64.divPositive (Binary64.ofNat n) (Binary64.ofNat (max 1 saturation))).lesser Binary64.one

def relevance (scoring : ScoringSettings) (keywords : List String) (e : Entry) : Binary64 :=
  if keywords = [] then Binary64.zero
  else saturate (matchedKeywords keywords e).length scoring.relevanceSaturation

def score (scoring : ScoringSettings) (keywords : List String) (now : Instant) (e : Entry) :
    Binary64 :=
  if e.superseded then Binary64.zero
  else (recency scoring now e).add (relevance scoring keywords e)

def scored (scoring : ScoringSettings) (keywords : List String) (now : Instant) (e : Entry) :
    ScoredEntry :=
  ⟨e, score scoring keywords now e, Briefing.tokens e.content⟩

def ranksBefore (a b : ScoredEntry) : Bool := b.score.rank ≤ a.score.rank

def ranked (scoring : ScoringSettings) (keywords : List String) (now : Instant)
    (entries : List Entry) : List ScoredEntry :=
  (entries.map (scored scoring keywords now)).mergeSort ranksBefore

end Scoring

end Briefing
