import Briefing.Disk
import Briefing.Text.Blank

namespace Briefing

/-- A session's silence: while its tombstone is younger than the window, no packet is printed. -/
structure Cooldown where
  tombstone : String
  windowSeconds : Nat
  deriving DecidableEq, Repr

namespace Cooldown

def filePrefix : String := "ctx-agent-"

def directoryMode : Nat := 0o700

def fileMode : Nat := 0o600

def isSafe (c : Char) : Bool := c.isAlphanum || c == '-' || c == '_'

def sanitized (session : List Char) : String :=
  String.ofList (session.map fun c => if isSafe c then c else '_')

def inDirectory (directory session : String) (windowSeconds : Nat) : Option Cooldown :=
  match Text.trim session.toList with
  | [] => none
  | name => some ⟨Path.join directory (filePrefix ++ sanitized name), windowSeconds⟩

/-- A tombstone from the future counts as fresh. -/
def isFresh (modified now : Instant) (windowSeconds : Nat) : Bool :=
  now.nanosecondsSince modified < windowSeconds * 1000000000

def isActive (c : Cooldown) (disk : Disk) (now : Instant) : Bool :=
  c.windowSeconds != 0 &&
    match disk.node c.tombstone with
    | .error _ => false
    | .ok node => isFresh node.stamp.modified now c.windowSeconds

def prepare (c : Cooldown) (disk : Disk) (now : Instant) : Disk.Change :=
  match Path.parent? c.tombstone with
  | none => ⟨none, disk⟩
  | some parent => disk.makeAll now directoryMode parent

/-- Writes the tombstone afresh, in a directory for its user alone. Where that fails, there is no
cooldown. -/
def touch (c : Cooldown) (disk : Disk) (now : Instant) : Disk :=
  if c.windowSeconds = 0 then disk
  else
    match c.prepare disk now with
    | ⟨some _, made⟩ => made
    | ⟨none, made⟩ =>
        match made.write now fileMode c.tombstone (some "") with
        | .ok written => written
        | .error _ => made

end Cooldown

end Briefing
