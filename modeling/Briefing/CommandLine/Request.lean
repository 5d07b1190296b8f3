import Briefing.CommandLine.Options
import Briefing.Packet.Format
import Briefing.Settings.Overrides

namespace Briefing.CommandLine

structure AgentRequest where
  budget : Option Nat := none
  format : Format := .markdown
  directory : Option String := none
  session : Option String := none
  cooldown : Option Nat := none
  explain : Bool := false
  deriving DecidableEq, Repr

inductive Request where
  | help
  | version
  | agent (request : AgentRequest)
  | status (directory : Option String)
  | showSettings
  | settingsPath
  | validateSettings
  | initSettings (inHome force : Bool)
  deriving DecidableEq, Repr

def countValue (value : String) : Option Nat := readCount value.toList

def pathValue (value : String) : Option String := if value = "" then none else some value

def formatValue (value : String) : Option Format := (Format.read value).toOption

def valued {α : Type} (name : String) (letter : Option Char) (read : String → Option α) : OptionSpec :=
  ⟨name, letter, .valued, fun value => (read value).isSome⟩

def flag (name : String) (letter : Option Char) : OptionSpec := ⟨name, letter, .flag, fun _ => true⟩

def final (name : String) (letter : Option Char) : OptionSpec := ⟨name, letter, .final, fun _ => true⟩

def commonSpecs : List OptionSpec := [final "help" (some 'h'), flag "verbose" (some 'v')]

def programSpecs : List OptionSpec := final "version" (some 'V') :: commonSpecs

def agentSpecs : List OptionSpec :=
  [valued "budget" (some 'b') countValue, valued "format" (some 'f') formatValue,
   valued "dir" (some 'd') pathValue, valued "session" (some 's') some,
   valued "cooldown" none countValue, flag "explain" none] ++ commonSpecs

def statusSpecs : List OptionSpec := valued "dir" (some 'd') pathValue :: commonSpecs

def initSpecs : List OptionSpec := [flag "global" none, flag "force" none] ++ commonSpecs

def Given.has (given : Given) (name : String) : Bool := (given.lookup name).isSome

def Given.value? {α : Type} (given : Given) (name : String) (read : String → Option α) : Option α :=
  (given.lookup name).bind read

def agentRequest (given : Given) : Request :=
  .agent
    { budget := given.value? "budget" countValue
      format := (given.value? "format" formatValue).getD .markdown
      directory := given.value? "dir" pathValue
      session := given.value? "session" some
      cooldown := given.value? "cooldown" countValue
      explain := given.has "explain" }

def statusRequest (given : Given) : Request := .status (given.value? "dir" pathValue)

def initRequest (given : Given) : Request :=
  .initSettings (given.has "global") (given.has "force")

def lastOptions (specs : List OptionSpec) (request : Given → Request) (arguments : List String) :
    Except UsageFault Request := do
  match ← scan specs .arguments [] arguments with
  | (_, extra :: _) => .error (.unexpected extra)
  | (given, []) => return if given.has "help" then .help else request given

def commandNames : List String := ["agent", "status", "config", "help"]

def settingsCommandNames : List String := ["show", "path", "validate", "init", "help"]

def helpAmong (names : List String) : List String → Except UsageFault Request
  | [] => .ok .help
  | name :: rest =>
      if !names.contains name then .error (.unexpected name)
      else
        match rest with
        | [] => .ok .help
        | extra :: _ => .error (.unexpected extra)

def helpRequest : List String → Except UsageFault Request
  | "config" :: rest => helpAmong settingsCommandNames rest
  | arguments => helpAmong commandNames arguments

def settingsCommand : List String → Except UsageFault Request
  | [] => .error .missingCommand
  | name :: rest =>
      if name = "show" then lastOptions commonSpecs (fun _ => .showSettings) rest
      else if name = "path" then lastOptions commonSpecs (fun _ => .settingsPath) rest
      else if name = "validate" then lastOptions commonSpecs (fun _ => .validateSettings) rest
      else if name = "init" then lastOptions initSpecs initRequest rest
      else if name = "help" then helpAmong settingsCommandNames rest
      else .error (.unexpected name)

def settingsRequest (arguments : List String) : Except UsageFault Request := do
  let (given, rest) ← scan commonSpecs .arguments [] arguments
  if given.has "help" then return .help else settingsCommand rest

def command : List String → Except UsageFault Request
  | [] => .error .missingCommand
  | name :: rest =>
      if name = "agent" then lastOptions agentSpecs agentRequest rest
      else if name = "status" then lastOptions statusSpecs statusRequest rest
      else if name = "config" then settingsRequest rest
      else if name = "help" then helpRequest rest
      else .error (.unexpected name)

def Request.read (arguments : List String) : Except UsageFault Request := do
  let (given, rest) ← scan programSpecs .arguments [] arguments
  if given.has "help" then return .help
  else if given.has "version" then return .version
  else command rest

def usageText : String :=
  "Usage: ctxpack [--verbose] <command>\n\n" ++
    "Commands:\n" ++
    "  agent   [--budget N] [--format md|json] [--dir DIR] [--session ID] [--cooldown SECS] [--explain]\n" ++
    "  status  [--dir DIR]\n" ++
    "  config  show | path | validate | init [--global] [--force]\n"

def versionText : String := "ctxpack 0.1.0\n"

end Briefing.CommandLine
