import Briefing.Disk
import Briefing.Settings.Document
import Briefing.Settings.Overrides
import Briefing.Settings.Validity

namespace Briefing

inductive SettingsFileFault where
  | unreadable (path reason : String)
  | malformed (path reason : String)
  | invalid (fault : SettingsFault)
  deriving DecidableEq, Repr

def SettingsFileFault.message : SettingsFileFault → String
  | .unreadable path reason => "Failed to read config file at " ++ path ++ ": " ++ reason
  | .malformed path reason => "Failed to parse config file at " ++ path ++ ": " ++ reason
  | .invalid fault => "Configuration validation failed: " ++ fault.message

structure Environment where
  home : Option String := none
  contextDirectory : Option String := none
  tokenBudget : Option String := none
  runtimeDirectory : Option String := none
  temporaryDirectory : Option String := none
  userId : Nat := 0
  deriving DecidableEq, Repr

namespace Settings

def localFile : String := ".ctxpack.toml"

def homeDirectory (env : Environment) : String :=
  Path.join (env.home.getD "/tmp") ".ctxpack"

def globalFile (env : Environment) : String := Path.join (homeDirectory env) "config.toml"

def file (disk : Disk) (env : Environment) : String :=
  if disk.hasFile localFile then localFile else globalFile env

def validated (s : Settings) : Except SettingsFileFault Settings :=
  match s.fault? with
  | none => .ok s
  | some fault => .error (.invalid fault)

def loadFrom (disk : Disk) (path : String) : Except SettingsFileFault Settings :=
  if !disk.present path then .ok {}
  else
    match disk.readText path with
    | .error fault => .error (.unreadable path fault.message)
    | .ok text =>
        match ofToml text with
        | .error fault => .error (.malformed path fault.message)
        | .ok s => validated s

def load (disk : Disk) (env : Environment) : Except SettingsFileFault Settings :=
  (loadFrom disk (file disk env)).map fun s => s.override env.contextDirectory env.tokenBudget

inductive InitFault where
  | notCreated (path : String) (fault : Fault)
  | notWritten (path : String) (fault : Fault)
  deriving DecidableEq, Repr

def InitFault.action : InitFault → String
  | .notCreated path _ => "Failed to create " ++ path
  | .notWritten path _ => "Failed to write " ++ path

def InitFault.reason : InitFault → String
  | .notCreated _ fault => fault.message
  | .notWritten _ fault => fault.message

def newDirectoryMode : Nat := 0o755

def newFileMode : Nat := 0o644

def prepareParent (disk : Disk) (now : Instant) (path : String) : Option InitFault × Disk :=
  match Path.parent? path with
  | none => (none, disk)
  | some parent =>
      match disk.makeAll now newDirectoryMode parent with
      | ⟨none, disk⟩ => (none, disk)
      | ⟨some fault, disk⟩ => (some (.notCreated parent fault), disk)

def init (disk : Disk) (now : Instant) (path : String) (force : Bool) :
    Except InitFault Bool × Disk :=
  if disk.present path && !force then (.ok false, disk)
  else
    match prepareParent disk now path with
    | (some fault, disk) => (.error fault, disk)
    | (none, disk) =>
        match disk.write now newFileMode path (some defaultToml) with
        | .error fault => (.error (.notWritten path fault), disk)
        | .ok disk => (.ok true, disk)

end Settings

end Briefing
