import Briefing.CommandLine.Reach
import Std.Time.DateTime.Timestamp

namespace Briefing.Main

open CommandLine

def pathText (place : List String) : String := "/" ++ "/".intercalate place

/-- A file that cannot be read has a mode without rights. -/
def fileAt (path : String) (modified : Instant) : IO Node := do
  try
    let bytes ← IO.FS.readBinFile path
    return .file ⟨Settings.newFileMode, modified⟩ (String.fromUTF8? bytes)
  catch _ => return .file ⟨0, modified⟩ none

def nodeAt? (path : String) : IO (Option Node) := do
  try
    let data ← ((← IO.currentDir) / path).metadata
    let modified : Instant := ⟨data.modified.sec, data.modified.nsec.toNat⟩
    match data.type with
    | .dir => return some (.directory ⟨Settings.newDirectoryMode, modified⟩ [])
    | _ => return some (← fileAt path modified)
  catch _ => return none

def observePlace (now : Instant) (d : Disk) (place : List String) : IO Disk := do
  if (d.root.find? place).isSome then return d
  match ← nodeAt? (pathText place) with
  | none => return d
  | some node => return d.putAt now place node

def observe (now : Instant) (d : Disk) (path : String) : IO Disk :=
  (placesOf (d.start path) path).foldlM (observePlace now) d

def observeChildren (now : Instant) (d : Disk) (path : String) : IO Disk := do
  let d ← observe now d path
  match d.locate path with
  | .error _ => return d
  | .ok place =>
      let entries ← try ((← IO.currentDir) / pathText place).readDir catch _ => pure #[]
      entries.foldlM (fun d e => observePlace now d (place ++ [e.fileName])) d

def isPrivate (mode : Nat) : Bool := mode % 0o100 == 0

def restrict (path : String) (stamp : Stamp) (isDirectory : Bool) : IO Unit := do
  if isPrivate stamp.mode then
    IO.setAccessRights path { user := { read := true, write := true, execution := isDirectory } }

def realize (before after : Disk) (place : List String) : IO Unit := do
  let path := pathText place
  match before.root.find? place, after.root.find? place with
  | none, some (.directory stamp _) =>
      IO.FS.createDir path
      restrict path stamp true
  | none, some (.file stamp content) =>
      IO.FS.writeFile path (content.getD "")
      restrict path stamp false
  | some (.file old _), some (.file new content) =>
      if old.modified ≠ new.modified then IO.FS.writeFile path (content.getD "")
  | _, _ => return

def effectiveUser : IO Nat := do
  try
    let status ← IO.FS.readFile "/proc/self/status"
    let line := (Text.lines status).find? fun l => "Uid:".toList.isPrefixOf l.toList
    let ids := ((line.getD "").toList.splitOnP (· == '\t')).drop 2
    return Nat.ofDigitChars 10 (ids.headD []) 0
  catch _ => return 0

def environment : IO Environment := do
  return {
    home := ← IO.getEnv "HOME"
    contextDirectory := ← IO.getEnv "CTXPACK_DIR"
    tokenBudget := ← IO.getEnv "CTXPACK_TOKEN_BUDGET"
    runtimeDirectory := ← IO.getEnv "XDG_RUNTIME_DIR"
    temporaryDirectory := ← IO.getEnv "TMPDIR"
    userId := ← effectiveUser }

def currentTime : IO Instant := do
  let t ← Std.Time.Timestamp.now
  let nanoseconds := t.toNanosecondsSinceUnixEpoch.val
  return ⟨nanoseconds / 1000000000, (nanoseconds % 1000000000).toNat⟩

def observeRequest (env : Environment) (now : Instant) (request : Request) (disk : Disk) :
    IO (Disk × List String) := do
  match Settings.load disk env with
  | .error _ => return (disk, [])
  | .ok s =>
      let disk ← (request.contextDirectory? s).toList.foldlM (observeChildren now) disk
      let tombstones := (request.tombstone? env s).toList
      return (← tombstones.foldlM (observe now) disk, tombstones)

def gather (env : Environment) (now : Instant) (request : Request) :
    IO (Disk × List (List String)) := do
  let here := Path.names (← IO.currentDir).toString
  let root : Node := .directory ⟨Settings.newDirectoryMode, now⟩ []
  let disk ← observe now ⟨root, []⟩ (pathText here)
  let disk ← (settingsPaths env).foldlM (observe now) { disk with current := here }
  let (disk, tombstones) ← observeRequest env now request disk
  let changeable := settingsPaths env ++ tombstones
  return (disk, changeable.flatMap fun path => placesOf (disk.start path) path)

def perform (arguments : List String) : IO Outcome := do
  match Request.read arguments with
  | .error fault => return fault.outcome
  | .ok request =>
      let env ← environment
      let now ← currentTime
      let (disk, places) ← gather env now request
      let (outcome, changed) := request.run ⟨disk, env, now⟩
      places.forM (realize disk changed)
      return outcome

end Briefing.Main

def main (arguments : List String) : IO UInt32 := do
  let outcome ← Briefing.Main.perform arguments
  IO.print outcome.output
  IO.eprint outcome.errors
  return UInt32.ofNat outcome.exit
