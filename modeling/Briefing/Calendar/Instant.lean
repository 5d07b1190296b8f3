import Briefing.Calendar.Date

namespace Briefing

/-- A point in time, in seconds since 1970 began. More than a billion nanoseconds belong to a leap
second, which is counted as the second before it. -/
structure Instant where
  seconds : Int
  nanoseconds : Nat
  deriving DecidableEq, Repr

namespace Instant

def dayNumber (t : Instant) : Int := t.seconds / 86400

def text (t : Instant) : String :=
  let second := (t.seconds % 86400).toNat
  (Date.ofDayNumber t.dayNumber).text ++ "T" ++ Date.padded 2 (second / 3600) ++ ":" ++
    Date.padded 2 (second / 60 % 60) ++ ":" ++
    Date.padded 2 (second % 60 + t.nanoseconds / 1000000000) ++ "Z"

def nanosecondsSince (t s : Instant) : Int :=
  (t.seconds - s.seconds) * 1000000000 + t.nanoseconds - s.nanoseconds

end Instant

end Briefing
