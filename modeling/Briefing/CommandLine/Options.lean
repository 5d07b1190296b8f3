namespace Briefing.CommandLine

inductive UsageFault where
  | missingCommand
  | unexpected (argument : String)
  | missingValue (name : String)
  | unwantedValue (name : String)
  | badValue (name value : String)
  | repeated (name : String)
  deriving DecidableEq, Repr

def UsageFault.message : UsageFault → String
  | .missingCommand => "a command is missing"
  | .unexpected argument => "unexpected argument '" ++ argument ++ "'"
  | .missingValue name => "a value is missing for '--" ++ name ++ "'"
  | .unwantedValue name => "'--" ++ name ++ "' takes no value"
  | .badValue name value => "invalid value '" ++ value ++ "' for '--" ++ name ++ "'"
  | .repeated name => "'--" ++ name ++ "' is given more than once"

inductive OptionKind where
  | flag
  | valued
  | final
  deriving DecidableEq, Repr

structure OptionSpec where
  name : String
  letter : Option Char
  kind : OptionKind
  accepts : String → Bool

inductive Next where
  | arguments
  | value (spec : OptionSpec)
  | nothing

def OptionSpec.next (spec : OptionSpec) : Next :=
  match spec.kind with
  | .flag => .arguments
  | .valued => .value spec
  | .final => .nothing

abbrev Given := List (String × String)

def Given.add (given : Given) (spec : OptionSpec) (value : String) : Except UsageFault Given :=
  if (given.lookup spec.name).isSome then .error (.repeated spec.name)
  else if !spec.accepts value then .error (.badValue spec.name value)
  else .ok (given ++ [(spec.name, value)])

def startsWithDash (argument : String) : Bool :=
  argument.toList.head? == some '-' && argument != "-"

def afterEquals : List Char → List Char
  | '=' :: value => value
  | value => value

/-- Options in their short form, one letter after another. The letter of an option with a value ends
them: its value is what follows, or, if nothing does, the next argument. -/
def addLetters (specs : List OptionSpec) (argument : String) (given : Given) :
    List Char → Except UsageFault (Given × Next)
  | [] => .ok (given, .arguments)
  | c :: cs =>
      match specs.find? (·.letter == some c) with
      | none => .error (.unexpected argument)
      | some spec =>
          if spec.kind = .valued then
            if cs = [] then .ok (given, spec.next)
            else (given.add spec (String.ofList (afterEquals cs))).map (·, .arguments)
          else
            match given.add spec "" with
            | .error fault => .error fault
            | .ok given =>
                if spec.kind = .final then .ok (given, spec.next)
                else addLetters specs argument given cs

def addLong (specs : List OptionSpec) (argument : String) (given : Given) (body : List Char) :
    Except UsageFault (Given × Next) :=
  let name := String.ofList (body.takeWhile (· != '='))
  match specs.find? (·.name == name), body.dropWhile (· != '=') with
  | none, _ => .error (.unexpected argument)
  | some spec, [] =>
      if spec.kind = .valued then .ok (given, spec.next) else (given.add spec "").map (·, spec.next)
  | some spec, _ :: value =>
      if spec.kind = .valued then (given.add spec (String.ofList value)).map (·, .arguments)
      else .error (.unwantedValue name)

def addArgument (specs : List OptionSpec) (given : Given) (argument : String) :
    Except UsageFault (Given × Next) :=
  match argument.toList with
  | '-' :: '-' :: body => addLong specs argument given body
  | '-' :: letters => addLetters specs argument given letters
  | _ => .error (.unexpected argument)

def scan (specs : List OptionSpec) :
    Next → Given → List String → Except UsageFault (Given × List String)
  | .nothing, given, _ => .ok (given, [])
  | .value spec, _, [] => .error (.missingValue spec.name)
  | .value spec, given, argument :: rest =>
      if startsWithDash argument then .error (.missingValue spec.name)
      else
        match given.add spec argument with
        | .error fault => .error fault
        | .ok given => scan specs .arguments given rest
  | .arguments, given, [] => .ok (given, [])
  | .arguments, given, argument :: rest =>
      if argument = "--" then
        match rest with
        | [] => .ok (given, [])
        | extra :: _ => .error (.unexpected extra)
      else if startsWithDash argument then
        match addArgument specs given argument with
        | .error fault => .error fault
        | .ok (given, next) => scan specs next given rest
      else .ok (given, argument :: rest)

end Briefing.CommandLine
