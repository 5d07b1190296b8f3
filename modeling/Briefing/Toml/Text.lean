import Briefing.Text.Hex
import Briefing.Text.Scan

namespace Briefing.Toml

open Text (prepend hexNumber)

def isTextChar (c : Char) : Bool := c == '\t' || (0x20 ≤ c.toNat && c.toNat != 0x7f)

def scalar (digits : List Char) : Option Char := do
  let n ← hexNumber digits
  if n.isValidChar then some (Char.ofNat n) else none

def shortEscape (c : Char) : Option Char :=
  match c with
  | 'b' => some '\x08'
  | 't' => some '\t'
  | 'n' => some '\n'
  | 'f' => some '\x0c'
  | 'r' => some '\r'
  | '"' => some '"'
  | '\\' => some '\\'
  | _ => none

def readEscape : List Char → Option (Char × List Char)
  | 'u' :: s => if s.length < 4 then none else (scalar (s.take 4)).map (·, s.drop 4)
  | 'U' :: s => if s.length < 8 then none else (scalar (s.take 8)).map (·, s.drop 8)
  | c :: s => (shortEscape c).map (·, s)
  | [] => none

/-- Reads to the closing quote. The fuel is at least the number of characters. -/
def readBasic : Nat → List Char → Option (List Char × List Char)
  | 0, _ => none
  | _ + 1, [] => none
  | fuel + 1, c :: s =>
      if c = '"' then some ([], s)
      else if c = '\\' then
        match readEscape s with
        | none => none
        | some (x, rest) => prepend [x] (readBasic fuel rest)
      else if isTextChar c then prepend [c] (readBasic fuel s)
      else none

def readLiteral (s : List Char) : Option (List Char × List Char) :=
  let body := s.takeWhile fun c => isTextChar c && c != '\''
  match s.drop body.length with
  | '\'' :: rest => some (body, rest)
  | _ => none

def dropFirstLineEnd : List Char → List Char
  | '\n' :: s => s
  | '\r' :: '\n' :: s => s
  | s => s

def isSpace (c : Char) : Bool := c == ' ' || c == '\t'

def startsLineEnd : List Char → Bool
  | '\n' :: _ => true
  | '\r' :: '\n' :: _ => true
  | _ => false

def quoteRun (quote : Char) (s : List Char) : Nat := (s.takeWhile (· == quote)).length

/-- Three to five quotes end a text of several lines; those before the last three belong to it. -/
def closeBlock (quote : Char) (run : Nat) (s : List Char) : Option (List Char × List Char) :=
  if run ≤ 5 then some (List.replicate (run - 3) quote, s.drop run) else none

def skipFold : List Char → List Char
  | '\r' :: '\n' :: s => skipFold s
  | c :: s => if isSpace c || c == '\n' then skipFold s else c :: s
  | [] => []

def readBasicBlock : Nat → List Char → Option (List Char × List Char)
  | 0, _ => none
  | fuel + 1, s =>
      let run := quoteRun '"' s
      if 3 ≤ run then closeBlock '"' run s
      else
        match s with
        | '\\' :: rest =>
            if startsLineEnd (rest.dropWhile isSpace) then readBasicBlock fuel (skipFold rest)
            else
              match readEscape rest with
              | none => none
              | some (x, rest) => prepend [x] (readBasicBlock fuel rest)
        | '\r' :: '\n' :: rest => prepend ['\n'] (readBasicBlock fuel rest)
        | c :: rest =>
            if isTextChar c || c == '\n' then prepend [c] (readBasicBlock fuel rest) else none
        | [] => none

def readLiteralBlock : Nat → List Char → Option (List Char × List Char)
  | 0, _ => none
  | fuel + 1, s =>
      let run := quoteRun '\'' s
      if 3 ≤ run then closeBlock '\'' run s
      else
        match s with
        | '\r' :: '\n' :: rest => prepend ['\n'] (readLiteralBlock fuel rest)
        | c :: rest =>
            if isTextChar c || c == '\n' then prepend [c] (readLiteralBlock fuel rest) else none
        | [] => none

def readLine? : List Char → Option (List Char × List Char)
  | '"' :: s => readBasic (s.length + 1) s
  | '\'' :: s => readLiteral s
  | _ => none

def readText? : List Char → Option (List Char × List Char)
  | '"' :: '"' :: '"' :: s => readBasicBlock (s.length + 1) (dropFirstLineEnd s)
  | '\'' :: '\'' :: '\'' :: s => readLiteralBlock (s.length + 1) (dropFirstLineEnd s)
  | s => readLine? s

inductive Quoting where
  | basic
  | literal
  | basicBlock
  | literalBlock
  deriving DecidableEq, Repr

def longestRun (x : Char) (run : Nat) : List Char → Nat
  | [] => run
  | c :: s => if c = x then max run (longestRun x (run + 1) s) else max run (longestRun x 0 s)

def needsEscape (c : Char) : Bool := !isTextChar c && c != '\n'

/-- The first quoting, in a fixed order of preference, that shows the text as it is. -/
def Quoting.choose (s : List Char) : Quoting :=
  let controls := s.any needsEscape
  let backslash := s.contains '\\'
  let lineEnd := s.contains '\n'
  let doubles := longestRun '"' 0 s
  let singles := longestRun '\'' 0 s
  if !controls && !backslash && doubles == 0 && !lineEnd then .basic
  else if !controls && singles == 0 && !lineEnd then .literal
  else if !controls && !backslash && doubles ≤ 2 then .basicBlock
  else if !controls && singles ≤ 2 then .literalBlock
  else if lineEnd then .basicBlock
  else .basic

def upperHexDigit (n : Nat) : Char := (Text.hexDigit n).toUpper

def escapeCode (c : Char) : List Char :=
  ['\\', 'u', '0', '0', upperHexDigit (c.toNat / 16), upperHexDigit (c.toNat % 16)]

def escapeChar (block : Bool) (c : Char) : List Char :=
  match c with
  | '\x08' => ['\\', 'b']
  | '\t' => ['\\', 't']
  | '\n' => if block then ['\n'] else ['\\', 'n']
  | '\x0c' => ['\\', 'f']
  | '\r' => ['\\', 'r']
  | '\\' => ['\\', '\\']
  | c => if isTextChar c then [c] else escapeCode c

/-- A block may show two quotes in a row; after an escape the count starts again. -/
def escapeText (block : Bool) (run : Nat) : List Char → List Char
  | [] => []
  | c :: s =>
      if c = '"' then
        if (if block then 2 else 0) < run + 1 then '\\' :: '"' :: escapeText block 0 s
        else '"' :: escapeText block (run + 1) s
      else escapeChar block c ++ escapeText block 0 s

def firstLineEnd (s : List Char) : List Char := if s.contains '\n' then ['\n'] else []

def writeAs (s : List Char) : Quoting → List Char
  | .basic => '"' :: escapeText false 0 s ++ ['"']
  | .literal => '\'' :: s ++ ['\'']
  | .basicBlock =>
      ['"', '"', '"'] ++ firstLineEnd s ++ escapeText true 0 s ++ ['"', '"', '"']
  | .literalBlock => ['\'', '\'', '\''] ++ firstLineEnd s ++ s ++ ['\'', '\'', '\'']

def writeText (s : List Char) : List Char := writeAs s (Quoting.choose s)

end Briefing.Toml
