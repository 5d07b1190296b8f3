import Briefing.Disk
import Briefing.Entry.Blocks
import Briefing.Items
import Briefing.Packet

namespace Briefing

structure ContextFile where
  name : String
  path : String
  content : String
  tokens : Nat
  deriving DecidableEq, Repr

namespace ContextFile

def isEmpty (f : ContextFile) : Bool := Text.blankText f.content

def named (directory name content : String) : ContextFile :=
  ⟨name, Path.join directory name, content, Briefing.tokens content⟩

end ContextFile

inductive LoadFault where
  | notFound (directory : String)
  | notADirectory (path : String)
  | unreadable (path reason : String)
  deriving DecidableEq, Repr

def LoadFault.message : LoadFault → String
  | .notFound directory => "Context directory not found: " ++ directory
  | .notADirectory path => "Not a directory: " ++ path
  | .unreadable path reason => "Failed to read " ++ path ++ ": " ++ reason

structure Context where
  directory : String
  files : List ContextFile
  deriving DecidableEq, Repr

namespace Context

def constitutionFile : String := "CONSTITUTION.md"

def tasksFile : String := "TASKS.md"

def conventionsFile : String := "CONVENTIONS.md"

def decisionsFile : String := "DECISIONS.md"

def learningsFile : String := "LEARNINGS.md"

def recommendedOrder : List String :=
  [constitutionFile, tasksFile, conventionsFile, "ARCHITECTURE.md", decisionsFile, learningsFile,
   "GLOSSARY.md", "DRIFT.md", "AGENT_PLAYBOOK.md"]

def fileOf (disk : Disk) (directory name : String) : Option ContextFile :=
  if Path.isMarkdownName name && Path.isText name then
    (disk.readText (Path.join directory name)).toOption.map (.named directory name)
  else none

def namesInOrder (a b : ContextFile) : Bool := a.name ≤ b.name

def ofNames (disk : Disk) (directory : String) (names : List String) : Context :=
  ⟨directory, (names.filterMap (fileOf disk directory)).mergeSort namesInOrder⟩

def load (disk : Disk) (directory : String) : Except LoadFault Context :=
  match disk.node directory with
  | .error .notFound => .error (.notFound directory)
  | .error fault => .error (.unreadable directory fault.message)
  | .ok (.file ..) => .error (.notADirectory directory)
  | .ok (.directory stamp children) =>
      if stamp.readable then .ok (ofNames disk directory (children.map Prod.fst))
      else .error (.unreadable directory Fault.denied.message)

def file? (c : Context) (name : String) : Option ContextFile := c.files.find? (·.name == name)

def totalTokens (c : Context) : Nat := sumOver ContextFile.tokens c.files

def text (c : Context) (name : String) : String :=
  match c.file? name with
  | none => ""
  | some f => f.content

def readOrder (c : Context) : List String :=
  (recommendedOrder.filter fun name => (c.file? name).isSome).map (Path.join c.directory)

def sources (c : Context) : Sources where
  readOrder := c.readOrder
  constitution := Items.rules (c.text constitutionFile)
  tasks := Items.activeTasks (c.text tasksFile)
  conventions := Items.bullets (c.text conventionsFile)
  decisions := Entry.blocks (c.text decisionsFile)
  learnings := Entry.blocks (c.text learningsFile)

end Context

end Briefing
