import Briefing.Toml.Value

namespace Briefing.Toml

def setEntry (key : String) (v : Value) : Entries → Entries
  | [] => [(key, v)]
  | (k, old) :: es => if k = key then (k, v) :: es else (k, old) :: setEntry key v es

def insertNew (key : String) (v : Value) (es : Entries) : Option Entries :=
  if (es.lookup key).isSome then none else some (setEntry key v es)

def onLast (f : Entries → Option Entries) (elements : List Entries) : Option (List Entries) :=
  match elements.reverse with
  | [] => none
  | last :: before => (f last).map fun changed => (changed :: before).reverse

/-- Gives a value to some keys. All but the last name tables, which keys with dots can make and
extend. A table from the way to a header can only be passed through, and the others are complete. -/
def assign : List String → Value → Entries → Option Entries
  | [], _, _ => none
  | [key], v, es => insertNew key v es
  | key :: next :: keys, v, es =>
      let inner := assign (next :: keys) v
      match es.lookup key with
      | none => (inner []).map fun sub => setEntry key (.table .dotted sub) es
      | some (.table .dotted sub) =>
          (inner sub).map fun sub => setEntry key (.table .dotted sub) es
      | some (.table .implied sub) =>
          if keys = [] then none
          else (inner sub).map fun sub => setEntry key (.table .implied sub) es
      | some (.tables elements) =>
          if keys = [] then none
          else (onLast inner elements).map fun es' => setEntry key (.tables es') es
      | some _ => none

def within (f : Entries → Option Entries) : List String → Entries → Option Entries
  | [], es => f es
  | key :: path, es =>
      match es.lookup key with
      | none => (within f path []).map fun sub => setEntry key (.table .implied sub) es
      | some (.table .braces _) => none
      | some (.table origin sub) =>
          (within f path sub).map fun sub => setEntry key (.table origin sub) es
      | some (.tables elements) =>
          (onLast (within f path) elements).map fun es' => setEntry key (.tables es') es
      | some _ => none

/-- Opens a table by its header, which is possible once, and also after the headers of tables in it. -/
def openTable (key : String) (es : Entries) : Option Entries :=
  match es.lookup key with
  | none => some (setEntry key (.table .header []) es)
  | some (.table .implied sub) => some (setEntry key (.table .header sub) es)
  | some _ => none

def openElement (key : String) (es : Entries) : Option Entries :=
  match es.lookup key with
  | none => some (setEntry key (.tables [[]]) es)
  | some (.tables elements) => some (setEntry key (.tables (elements ++ [[]])) es)
  | some _ => none

structure Draft where
  entries : Entries
  header : List String

def Draft.add (d : Draft) : Statement → Option Draft
  | .table path =>
      match path.getLast? with
      | none => none
      | some key => (within (openTable key) path.dropLast d.entries).map (⟨·, path⟩)
  | .element path =>
      match path.getLast? with
      | none => none
      | some key => (within (openElement key) path.dropLast d.entries).map (⟨·, path⟩)
  | .assign keys v => (within (assign keys v) d.header d.entries).map (⟨·, d.header⟩)

def Draft.addAll (d : Draft) (number : Nat) : List Statement → Except Nat Entries
  | [] => .ok d.entries
  | st :: sts =>
      match d.add st with
      | none => .error number
      | some d => d.addAll (number + 1) sts

def build (statements : List Statement) : Except Nat Entries :=
  Draft.addAll ⟨[], []⟩ 1 statements

end Briefing.Toml
