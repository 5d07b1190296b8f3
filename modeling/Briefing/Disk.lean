import Briefing.Calendar.Instant
import Briefing.Disk.Fault
import Briefing.Disk.Path

namespace Briefing

structure Stamp where
  mode : Nat
  modified : Instant
  deriving DecidableEq, Repr

namespace Stamp

/-- Of the mode, the rights of the owner count. -/
def readable (s : Stamp) : Bool := s.mode.testBit 8

def writable (s : Stamp) : Bool := s.mode.testBit 7

def searchable (s : Stamp) : Bool := s.mode.testBit 6

end Stamp

/-- A file, without content if that is no text, or a directory. -/
inductive Node where
  | file (stamp : Stamp) (content : Option String)
  | directory (stamp : Stamp) (children : List (String × Node))

namespace Node

def stamp : Node → Stamp
  | file s _ => s
  | directory s _ => s

def isDirectory : Node → Bool
  | file .. => false
  | directory .. => true

def isFile (n : Node) : Bool := !n.isDirectory

def children : Node → List (String × Node)
  | file .. => []
  | directory _ cs => cs

def find? : Node → List String → Option Node
  | n, [] => some n
  | n, name :: names =>
      match n.children.lookup name with
      | none => none
      | some child => child.find? names

def putChild (name : String) (node : Node) : List (String × Node) → List (String × Node)
  | [] => [(name, node)]
  | (other, old) :: rest =>
      if other = name then (name, node) :: rest else (other, old) :: putChild name node rest

/-- Puts a node at the end of some names. Only the last of them may be new, and then its directory is
modified. -/
def put (now : Instant) (new : Node) : Node → List String → Node
  | _, [] => new
  | file s c, _ :: _ => file s c
  | directory s cs, name :: names =>
      match cs.lookup name with
      | some child => directory s (putChild name (put now new child names) cs)
      | none =>
          if names = [] then directory { s with modified := now } (putChild name new cs)
          else directory s cs

end Node

structure Disk where
  root : Node
  current : List String

namespace Disk

def maxName : Nat := 255

def maxPath : Nat := 4096

def walk (root : Node) : List String → List String → Except Fault (List String)
  | here, [] => .ok here
  | here, step :: rest =>
      match root.find? here with
      | none => .error .notFound
      | some (.file ..) => .error .notDirectory
      | some (.directory s children) =>
          if !s.searchable then .error .denied
          else if step = "." then walk root here rest
          else if step = ".." then walk root here.dropLast rest
          else if maxName < step.utf8ByteSize then .error .nameTooLong
          else if (children.lookup step).isSome then walk root (here ++ [step]) rest
          else .error .notFound

def checkText (path : String) : Except Fault Unit :=
  if path.toList.contains '\x00' then .error .nulInName
  else if path = "" then .error .notFound
  else if maxPath ≤ path.utf8ByteSize then .error .nameTooLong
  else .ok ()

def isDirectoryAt (d : Disk) (place : List String) : Bool :=
  (d.root.find? place).any Node.isDirectory

def start (d : Disk) (path : String) : List String :=
  if Path.isAbsolute path then [] else d.current

/-- Where a path leads. One with a separator at its end leads to a directory only. -/
def locate (d : Disk) (path : String) : Except Fault (List String) := do
  checkText path
  let place ← walk d.root (d.start path) (Path.names path)
  if Path.endsOpen path && !d.isDirectoryAt place then .error .notDirectory else .ok place

def node (d : Disk) (path : String) : Except Fault Node := do
  match d.root.find? (← d.locate path) with
  | none => .error .notFound
  | some n => .ok n

def present (d : Disk) (path : String) : Bool := (d.node path).isOk

def hasFile (d : Disk) (path : String) : Bool :=
  match d.node path with
  | .ok n => n.isFile
  | .error _ => false

def hasDirectory (d : Disk) (path : String) : Bool :=
  match d.node path with
  | .ok n => n.isDirectory
  | .error _ => false

def readText (d : Disk) (path : String) : Except Fault String := do
  let n ← d.node path
  if !n.stamp.readable then .error .denied
  else
    match n with
    | .directory .. => .error .isDirectory
    | .file _ none => .error .notText
    | .file _ (some text) => .ok text

/-- Where something new would be: the place of its directory, and its own name. A path that ends in
dots or takes no step has no such name. -/
def locateNew (d : Disk) (path : String) : Except Fault (List String × Option String) := do
  checkText path
  match (Path.names path).reverse with
  | [] => .ok ([], none)
  | last :: before =>
      let dir ← walk d.root (d.start path) (before.reverse ++ ["."])
      .ok (dir, if last = "." ∨ last = ".." then none else some last)

def putAt (d : Disk) (now : Instant) (place : List String) (new : Node) : Disk :=
  { d with root := Node.put now new d.root place }

def takesNew (d : Disk) (dir : List String) : Bool :=
  (d.root.find? dir).any fun n => n.stamp.writable

def makeDirectory (d : Disk) (now : Instant) (mode : Nat) (path : String) : Except Fault Disk := do
  match ← d.locateNew path with
  | (_, none) => .error .exists
  | (dir, some name) =>
      if maxName < name.utf8ByteSize then .error .nameTooLong
      else if (d.root.find? (dir ++ [name])).isSome then .error .exists
      else if !d.takesNew dir then .error .denied
      else .ok (d.putAt now (dir ++ [name]) (.directory ⟨mode, now⟩ []))

structure Change where
  fault : Option Fault
  disk : Disk

def makeOrKeep (d : Disk) (now : Instant) (mode : Nat) (path : String) : Change :=
  match d.makeDirectory now mode path with
  | .ok d' => ⟨none, d'⟩
  | .error fault => ⟨if d.hasDirectory path then none else some fault, d⟩

def makeDirectories (d : Disk) (now : Instant) (mode : Nat) : Nat → String → Change
  | 0, _ => ⟨some .noParent, d⟩
  | fuel + 1, path =>
      if path = "" then ⟨none, d⟩
      else
        match d.makeDirectory now mode path with
        | .error .notFound =>
            match Path.parent? path with
            | none => ⟨some .noParent, d⟩
            | some parent =>
                match d.makeDirectories now mode fuel parent with
                | ⟨none, d'⟩ => d'.makeOrKeep now mode path
                | failed => failed
        | _ => d.makeOrKeep now mode path

def makeAll (d : Disk) (now : Instant) (mode : Nat) (path : String) : Change :=
  d.makeDirectories now mode (path.length + 1) path

/-- The mode of a file that is written. One that is there keeps its own, and has to allow reading as
well. -/
def modeWritten (d : Disk) (mode : Nat) (dir : List String) (name : String) : Except Fault Nat :=
  match d.root.find? (dir ++ [name]) with
  | some (.directory ..) => .error .isDirectory
  | some (.file s _) => if s.readable && s.writable then .ok s.mode else .error .denied
  | none => if d.takesNew dir then .ok mode else .error .denied

def write (d : Disk) (now : Instant) (mode : Nat) (path : String) (content : Option String) :
    Except Fault Disk := do
  match ← d.locateNew path with
  | (_, none) => .error .isDirectory
  | (dir, some name) =>
      if Path.endsOpen path then .error .isDirectory
      else if maxName < name.utf8ByteSize then .error .nameTooLong
      else do
        let mode ← d.modeWritten mode dir name
        .ok (d.putAt now (dir ++ [name]) (.file ⟨mode, now⟩ content))

end Disk

end Briefing
