import Briefing.CommandLine.Run

namespace Briefing.CommandLine

def settingsPaths (env : Environment) : List String := [Settings.localFile, Settings.globalFile env]

def Request.contextDirectory? (s : Settings) : Request → Option String
  | .agent r => some (r.directory.getD s.contextDirectory)
  | .status directory => some (directory.getD s.contextDirectory)
  | _ => none

def Request.tombstone? (env : Environment) (s : Settings) : Request → Option String
  | .agent r => (r.cooldownOf env s).map Cooldown.tombstone
  | _ => none

def placesOf (start : List String) (path : String) : List (List String) :=
  let step (places : List (List String)) (name : String) : List (List String) :=
    let here := places.headD start
    (if name = "." then here else if name = ".." then here.dropLast else here ++ [name]) :: places
  ((Path.names path).foldl step []).reverse

end Briefing.CommandLine
