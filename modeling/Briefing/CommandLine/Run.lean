import Briefing.CommandLine.Request
import Briefing.Context.Status
import Briefing.Cooldown
import Briefing.Packet.Assembly
import Briefing.Packet.TierReport
import Briefing.Settings.File

namespace Briefing.CommandLine

structure World where
  disk : Disk
  environment : Environment
  now : Instant

structure Outcome where
  exit : Nat := 0
  output : String := ""
  errors : String := ""
  deriving DecidableEq, Repr

structure Failure where
  message : String
  causes : List String := []
  deriving DecidableEq, Repr

def breakLines (indent : String) (s : String) : String :=
  String.ofList (s.toList.flatMap fun c => if c = '\n' then '\n' :: indent.toList else [c])

def numberedCauses (number : Nat) : List String → String
  | [] => ""
  | cause :: causes =>
      "\n" ++ Text.alignRight 5 (toString number) ++ ": " ++ breakLines "       " cause ++
        numberedCauses (number + 1) causes

def causeText : List String → String
  | [] => ""
  | [cause] => "\n\nCaused by:\n    " ++ breakLines "    " cause
  | causes => "\n\nCaused by:" ++ numberedCauses 0 causes

def Failure.text (f : Failure) : String := "Error: " ++ f.message ++ causeText f.causes ++ "\n"

def Failure.outcome (f : Failure) : Outcome := { exit := 1, errors := f.text }

def settingsError (fault : SettingsFileFault) : String := "Configuration error: " ++ fault.message

def loadError (fault : LoadFault) : String := "Load error: " ++ fault.message

def settings (w : World) : Except Failure Settings :=
  (Settings.load w.disk w.environment).mapError fun fault =>
    ⟨"Failed to load config", [settingsError fault]⟩

def contextMessage (directory : String) : String := "Failed to load context from " ++ directory

def packetOf (s : Settings) (disk : Disk) (directory : String) (budget : Nat) (now : Instant) :
    Except LoadFault Packet :=
  (Context.load disk directory).map fun c => Packet.assemble s now c.sources budget

def stateDirectory (env : Environment) : String :=
  match env.runtimeDirectory.filter (· ≠ "") with
  | some dir => Path.join dir "ctxpack"
  | none => Path.join (env.temporaryDirectory.getD "/tmp") ("ctxpack-" ++ toString env.userId)

def AgentRequest.cooldownOf (r : AgentRequest) (env : Environment) (s : Settings) :
    Option Cooldown :=
  r.session.bind fun session =>
    Cooldown.inDirectory (stateDirectory env) session (r.cooldown.getD s.agent.cooldownSeconds)

def touched (cooldown : Option Cooldown) (w : World) : Disk :=
  match cooldown with
  | none => w.disk
  | some c => c.touch w.disk w.now

def AgentRequest.emit (r : AgentRequest) (w : World) (s : Settings) (cooldown : Option Cooldown) :
    Outcome × Disk :=
  let directory := r.directory.getD s.contextDirectory
  match packetOf s w.disk directory (r.budget.getD s.tokenBudget) w.now with
  | .error fault =>
      ((⟨contextMessage directory, [loadError fault, fault.message]⟩ : Failure).outcome, w.disk)
  | .ok packet =>
      ({ output := packet.render w.now r.format
         errors := if r.explain then packet.tierReport else "" }, touched cooldown w)

def AgentRequest.run (r : AgentRequest) (w : World) : Outcome × Disk :=
  match settings w with
  | .error failure => (failure.outcome, w.disk)
  | .ok s =>
      let cooldown := r.cooldownOf w.environment s
      if cooldown.any fun c => c.isActive w.disk w.now then ({}, w.disk) else r.emit w s cooldown

def runStatus (directory : Option String) (w : World) : Outcome :=
  match settings w with
  | .error failure => failure.outcome
  | .ok s =>
      let directory := directory.getD s.contextDirectory
      match Context.load w.disk directory with
      | .error fault => (⟨contextMessage directory, [fault.message]⟩ : Failure).outcome
      | .ok context => { output := context.status s.tokenBudget }

def tooLarge : String := "out-of-range value for u64 type"

def runShow (w : World) : Outcome :=
  match settings w with
  | .error failure => failure.outcome
  | .ok s =>
      match s.toToml? with
      | none => (⟨"Failed to serialize config", [tooLarge]⟩ : Failure).outcome
      | some text => { output := text ++ "\n" }

def runPath (w : World) : Outcome :=
  { output := Settings.file w.disk w.environment ++ "\n" }

def warnings (s : Settings) (found : Bool) : List String :=
  (if s.tokenBudget = 0 then ["token_budget is 0; packets will contain tier 1 only"] else []) ++
    if found then [] else ["No config file found; using defaults"]

def warningText (lines : List String) : String :=
  if lines = [] then "   ✅ All checks passed\n"
  else "\n" ++ String.join (lines.map fun l => "   ⚠️  " ++ l ++ "\n")

def settingsSummary (s : Settings) : String :=
  "\n   Context dir:  " ++ s.contextDirectory ++ "\n" ++
    "   Budget:       " ++ toString s.tokenBudget ++ "\n" ++
    "   Tiers:        tasks " ++ toString s.packet.taskPercent ++ "%, conventions " ++
    toString s.packet.conventionPercent ++ "%, split floor " ++
    toString s.packet.splitFloorPercent ++ "%\n" ++
    "   Cooldown:     " ++ toString s.agent.cooldownSeconds ++ "s\n"

def runValidate (w : World) : Outcome :=
  let path := Settings.file w.disk w.environment
  let start := "🔍 Validating configuration (" ++ path ++ ")...\n"
  match Settings.load w.disk w.environment with
  | .error fault =>
      { exit := 1
        output := start ++ "   ❌ Config error: " ++ fault.message ++ "\n"
        errors := (⟨fault.message, []⟩ : Failure).text }
  | .ok s =>
      { output := start ++ "   ✅ Config parsed successfully\n" ++
          warningText (warnings s (w.disk.present path)) ++ settingsSummary s }

def initText (path : String) (written : Bool) : String :=
  if written then "✅ Created config file: " ++ path ++ "\n"
  else "⚠️  Config already exists at: " ++ path ++ "\n   Use --force to overwrite it\n"

def runInit (inHome force : Bool) (w : World) : Outcome × Disk :=
  let path := if inHome then Settings.globalFile w.environment else Settings.localFile
  match Settings.init w.disk w.now path force with
  | (.error fault, disk) => ((⟨fault.action, [fault.reason]⟩ : Failure).outcome, disk)
  | (.ok written, disk) => ({ output := initText path written }, disk)

def Request.run (w : World) : Request → Outcome × Disk
  | .help => ({ output := usageText }, w.disk)
  | .version => ({ output := versionText }, w.disk)
  | .agent r => r.run w
  | .status directory => (runStatus directory w, w.disk)
  | .showSettings => (runShow w, w.disk)
  | .settingsPath => (runPath w, w.disk)
  | .validateSettings => (runValidate w, w.disk)
  | .initSettings inHome force => runInit inHome force w

def UsageFault.outcome (fault : UsageFault) : Outcome :=
  { exit := 2, errors := "error: " ++ fault.message ++ "\n\n" ++ usageText }

def run (w : World) (arguments : List String) : Outcome × Disk :=
  match Request.read arguments with
  | .error fault => (fault.outcome, w.disk)
  | .ok request => request.run w

end Briefing.CommandLine
