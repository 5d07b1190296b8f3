import Briefing.Toml.Number
import Briefing.Toml.Tables
import Briefing.Toml.Text

namespace Briefing.Toml

open Text (expect)

def maxDepth : Nat := 79

def skipSpaces (s : List Char) : List Char := s.dropWhile isSpace

def isBareKeyChar (c : Char) : Bool := c.isAlphanum || c == '-' || c == '_'

def readKey (s : List Char) : Option (String × List Char) :=
  match readLine? s with
  | some (key, rest) => some (String.ofList key, rest)
  | none =>
      let key := s.takeWhile isBareKeyChar
      if key = [] then none else some (String.ofList key, s.drop key.length)

def readKeys : Nat → List Char → Option (List String × List Char)
  | 0, _ => none
  | n + 1, s =>
      match readKey (skipSpaces s) with
      | none => none
      | some (key, rest) =>
          match skipSpaces rest with
          | '.' :: more => (readKeys n more).map fun (keys, rest) => (key :: keys, rest)
          | rest => some ([key], rest)

def skipFiller (comment : Bool) : List Char → List Char
  | [] => []
  | '\r' :: '\n' :: s => skipFiller false s
  | c :: s =>
      if c = '\n' then skipFiller false s
      else if comment then if isTextChar c then skipFiller true s else c :: s
      else if isSpace c then skipFiller false s
      else if c = '#' then skipFiller true s
      else c :: s

def readItems (item : List Char → Option (Value × List Char)) :
    Nat → List Char → Option (List Value × List Char)
  | 0, _ => none
  | fuel + 1, s =>
      match skipFiller false s with
      | ']' :: rest => some ([], rest)
      | s => do
          let (v, rest) ← item s
          match skipFiller false rest with
          | ',' :: rest => (readItems item fuel rest).map fun (vs, rest) => (v :: vs, rest)
          | ']' :: rest => some ([v], rest)
          | _ => none

def readPair (item : List Char → Option (Value × List Char)) (s : List Char) :
    Option ((List String × Value) × List Char) := do
  let (keys, s) ← readKeys maxDepth s
  let s ← expect '=' s
  let (v, rest) ← item (skipSpaces s)
  some ((keys, v), rest)

def readPairs (item : List Char → Option (Value × List Char)) :
    Nat → List Char → Option (List (List String × Value) × List Char)
  | 0, _ => none
  | fuel + 1, s => do
      let (pair, rest) ← readPair item s
      match skipSpaces rest with
      | ',' :: rest => (readPairs item fuel rest).map fun (pairs, rest) => (pair :: pairs, rest)
      | '}' :: rest => some ([pair], rest)
      | _ => none

def readArray (item : List Char → Option (Value × List Char)) (s : List Char) :
    Option (Value × List Char) :=
  (readItems item (s.length + 1) s).map fun (vs, rest) => (.array vs, rest)

def readBraces (item : List Char → Option (Value × List Char)) (s : List Char) :
    Option (Value × List Char) :=
  match skipSpaces s with
  | '}' :: rest => some (.table .braces [], rest)
  | s => do
      let (pairs, rest) ← readPairs item (s.length + 1) s
      let entries ← pairs.foldlM (fun es (keys, v) => assign keys v es) []
      some (.table .braces entries, rest)

def readScalar : List Char → Option (Value × List Char)
  | 't' :: 'r' :: 'u' :: 'e' :: s => some (.boolean true, s)
  | 'f' :: 'a' :: 'l' :: 's' :: 'e' :: s => some (.boolean false, s)
  | s =>
      match readText? s with
      | some (cs, rest) => some (.text (String.ofList cs), rest)
      | none => readNumber s

def readValue : Nat → List Char → Option (Value × List Char)
  | 0, s => readScalar s
  | depth + 1, s =>
      match s with
      | '[' :: rest => readArray (readValue depth) rest
      | '{' :: rest => readBraces (readValue depth) rest
      | s => readScalar s

def readLineEnd (s : List Char) : Option (List Char) :=
  let s := skipSpaces s
  let s := if s.head? = some '#' then s.dropWhile isTextChar else s
  match s with
  | [] => some []
  | '\n' :: rest => some rest
  | '\r' :: '\n' :: rest => some rest
  | _ => none

def readStatement : List Char → Option (Statement × List Char)
  | '[' :: '[' :: s => do
      let (path, s) ← readKeys maxDepth s
      let s ← expect ']' s
      let s ← expect ']' s
      some (.element path, s)
  | '[' :: s => do
      let (path, s) ← readKeys maxDepth s
      let s ← expect ']' s
      some (.table path, s)
  | s => (readPair (readValue maxDepth) s).map fun ((keys, v), rest) => (.assign keys v, rest)

def readStatements : Nat → List Char → Except (List Char) (List Statement)
  | 0, s => .error s
  | fuel + 1, s =>
      if skipSpaces s = [] then .ok []
      else
        match readLineEnd s with
        | some rest => readStatements fuel rest
        | none =>
            match (readStatement (skipSpaces s)).bind fun (st, rest) =>
                (readLineEnd rest).map (st, ·) with
            | none => .error s
            | some (st, rest) => (readStatements fuel rest).map (st :: ·)

def dropMark : List Char → List Char
  | '\uFEFF' :: s => s
  | s => s

inductive DocumentFault where
  | malformed (line : Nat)
  | conflict (statement : Nat)
  | unfit (key : String)
  deriving DecidableEq, Repr

def DocumentFault.message : DocumentFault → String
  | .malformed line => "line " ++ toString line ++ " is malformed"
  | .conflict statement => "statement " ++ toString statement ++ " defines something twice"
  | .unfit key => "the value of '" ++ key ++ "' does not fit"

def lineNumber (text rest : List Char) : Nat :=
  (text.take (text.length - rest.length)).count '\n' + 1

def readDocument (text : String) : Except DocumentFault (List Statement) :=
  let s := dropMark text.toList
  match readStatements (s.length + 1) s with
  | .ok statements => .ok statements
  | .error rest => .error (.malformed (lineNumber s rest))

def read (text : String) : Except DocumentFault Entries := do
  build (← readDocument text) |>.mapError .conflict

end Briefing.Toml
