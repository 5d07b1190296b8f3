import Briefing.Json
import Briefing.Text.Scan

namespace Briefing.Json

open Text (expect prepend)

def isGap (c : Char) : Bool := c == ' ' || c == '\t' || c == '\n' || c == '\r'

def skipGap (s : List Char) : List Char := s.dropWhile isGap

def shortEscape (c : Char) : Option Char :=
  match c with
  | '"' => some '"'
  | '\\' => some '\\'
  | '/' => some '/'
  | 'b' => some '\x08'
  | 'f' => some '\x0c'
  | 'n' => some '\n'
  | 'r' => some '\r'
  | 't' => some '\t'
  | _ => none

def readUnit (s : List Char) : Option (Nat × List Char) :=
  if s.length < 4 then none else (Text.hexNumber (s.take 4)).map (·, s.drop 4)

def isHighHalf (n : Nat) : Bool := 0xd800 ≤ n && n < 0xdc00

def isLowHalf (n : Nat) : Bool := 0xdc00 ≤ n && n < 0xe000

def readLowHalf (high : Nat) : List Char → Option (Char × List Char)
  | '\\' :: 'u' :: s => do
      let (low, rest) ← readUnit s
      if isLowHalf low then
        some (Char.ofNat (0x10000 + (high - 0xd800) * 0x400 + (low - 0xdc00)), rest)
      else none
  | _ => none

def readEscape : List Char → Option (Char × List Char)
  | 'u' :: s => do
      let (n, rest) ← readUnit s
      if isHighHalf n then readLowHalf n rest
      else if isLowHalf n then none
      else some (Char.ofNat n, rest)
  | c :: s => (shortEscape c).map (·, s)
  | [] => none

def readQuoted : Nat → List Char → Option (List Char × List Char)
  | 0, _ => none
  | _ + 1, [] => none
  | fuel + 1, c :: s =>
      if c = '"' then some ([], s)
      else if c = '\\' then
        match readEscape s with
        | none => none
        | some (x, rest) => prepend [x] (readQuoted fuel rest)
      else if c.toNat < 0x20 then none
      else prepend [c] (readQuoted fuel s)

def readText (s : List Char) : Option (String × List Char) := do
  let s ← expect '"' s
  let (cs, rest) ← readQuoted (s.length + 1) s
  some (String.ofList cs, rest)

def readDigits (s : List Char) : Option (List Char × List Char) :=
  let ds := s.takeWhile Char.isDigit
  if ds = [] then none else some (ds, s.drop ds.length)

def readWhole : List Char → Option (List Char × List Char)
  | '0' :: s => some (['0'], s)
  | s => readDigits s

def readFraction : List Char → Option (List Char × List Char)
  | '.' :: s => readDigits s
  | s => some ([], s)

def signedDigits (negative : Bool) (ds : List Char) : Int :=
  if negative then -(Nat.ofDigitChars 10 ds 0 : Int) else Nat.ofDigitChars 10 ds 0

def readSign : List Char → Bool × List Char
  | '-' :: s => (true, s)
  | s => (false, s)

def readExponentSign : List Char → Bool × List Char
  | '+' :: s => (false, s)
  | s => readSign s

def readExponent : List Char → Option (Int × List Char)
  | [] => some (0, [])
  | c :: s =>
      if c = 'e' ∨ c = 'E' then do
        let (negative, s) := readExponentSign s
        let (ds, rest) ← readDigits s
        some (signedDigits negative ds, rest)
      else some (0, c :: s)

def readNumber (s : List Char) : Option (Json × List Char) := do
  let (negative, s) := readSign s
  let (whole, s) ← readWhole s
  let (fraction, s) ← readFraction s
  let (exponent, rest) ← readExponent s
  some (.number (signedDigits negative (whole ++ fraction)) (exponent - fraction.length), rest)

def readScalar : List Char → Option (Json × List Char)
  | 'n' :: 'u' :: 'l' :: 'l' :: s => some (.null, s)
  | 't' :: 'r' :: 'u' :: 'e' :: s => some (.bool true, s)
  | 'f' :: 'a' :: 'l' :: 's' :: 'e' :: s => some (.bool false, s)
  | '"' :: s => (readText ('"' :: s)).map fun (t, rest) => (.text t, rest)
  | s => readNumber s

def readParts {α : Type} (part : List Char → Option (α × List Char)) (close : Char) :
    Nat → List Char → Option (List α × List Char)
  | 0, _ => none
  | fuel + 1, s => do
      let (x, rest) ← part (skipGap s)
      match skipGap rest with
      | ',' :: rest => (readParts part close fuel rest).map fun (xs, rest) => (x :: xs, rest)
      | c :: rest => if c = close then some ([x], rest) else none
      | [] => none

def readBracketed {α : Type} (part : List Char → Option (α × List Char)) (close : Char)
    (s : List Char) : Option (List α × List Char) :=
  match expect close (skipGap s) with
  | some rest => some ([], rest)
  | none => readParts part close (s.length + 1) s

def readField (value : List Char → Option (Json × List Char)) (s : List Char) :
    Option ((String × Json) × List Char) := do
  let (key, s) ← readText s
  let s ← expect ':' (skipGap s)
  let (v, rest) ← value (skipGap s)
  some ((key, v), rest)

/-- Reads a value in which containers lie less deep than the given number. -/
def readValue : Nat → List Char → Option (Json × List Char)
  | 0, _ => none
  | depth + 1, s =>
      match s with
      | '[' :: rest =>
          (readBracketed (readValue depth) ']' rest).map fun (items, rest) => (.array items, rest)
      | '{' :: rest =>
          (readBracketed (readField (readValue depth)) '}' rest).map
            fun (fields, rest) => (.object fields, rest)
      | s => readScalar s

def read? (text : String) : Option Json := do
  let s := text.toList
  let (j, rest) ← readValue (s.length + 1) (skipGap s)
  if skipGap rest = [] then some j else none

end Briefing.Json
