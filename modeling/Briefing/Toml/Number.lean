import Briefing.Binary64.Decimal
import Briefing.Calendar.Date
import Briefing.Text.Scan
import Briefing.Toml.Value

namespace Briefing.Toml

open Text (expect)

def moreDigits (isDigit : Char → Bool) : List Char → List Char × List Char
  | [] => ([], [])
  | [c] => if isDigit c then ([c], []) else ([], [c])
  | c :: d :: s =>
      if isDigit c then
        let (ds, rest) := moreDigits isDigit (d :: s)
        (c :: ds, rest)
      else if c = '_' ∧ isDigit d then
        let (ds, rest) := moreDigits isDigit s
        (d :: ds, rest)
      else ([], c :: d :: s)

def readDigits (isDigit : Char → Bool) : List Char → Option (List Char × List Char)
  | [] => none
  | c :: s =>
      if isDigit c then
        let (ds, rest) := moreDigits isDigit s
        some (c :: ds, rest)
      else none

def readDecimalDigits : List Char → Option (List Char × List Char)
  | '0' :: s => some (['0'], s)
  | s => readDigits Char.isDigit s

def readSign : List Char → Bool × List Char
  | '-' :: s => (true, s)
  | '+' :: s => (false, s)
  | s => (false, s)

def digitValue (c : Char) : Nat :=
  if c.isDigit then c.toNat - '0'.toNat else c.toLower.toNat - 'a'.toNat + 10

def numberOf (base : Nat) (digits : List Char) : Nat :=
  digits.foldl (fun n c => base * n + digitValue c) 0

def isHexDigit (c : Char) : Bool := c.isDigit || ('a' ≤ c.toLower && c.toLower ≤ 'f')

def isOctalDigit (c : Char) : Bool := '0' ≤ c && c ≤ '7'

def isBinaryDigit (c : Char) : Bool := c == '0' || c == '1'

def integerValue (n : Int) (rest : List Char) : Option (Value × List Char) :=
  if isInteger n then some (.integer n, rest) else none

def readRadix (base : Nat) (isDigit : Char → Bool) (s : List Char) :
    Option (Value × List Char) := do
  let (ds, rest) ← readDigits isDigit s
  integerValue (numberOf base ds) rest

def signed (negative : Bool) (n : Nat) : Int := if negative then -(n : Int) else n

def readDecimal (s : List Char) : Option (Value × List Char) := do
  let (negative, s) := readSign s
  let (ds, rest) ← readDecimalDigits s
  integerValue (signed negative (Nat.ofDigitChars 10 ds 0)) rest

def readInteger : List Char → Option (Value × List Char)
  | '0' :: 'x' :: s => readRadix 16 isHexDigit s
  | '0' :: 'o' :: s => readRadix 8 isOctalDigit s
  | '0' :: 'b' :: s => readRadix 2 isBinaryDigit s
  | s => readDecimal s

def readFraction : List Char → Option (List Char × List Char)
  | '.' :: s => readDigits Char.isDigit s
  | s => some ([], s)

def readExponent : List Char → Option (Int × List Char)
  | c :: s =>
      if c = 'e' ∨ c = 'E' then do
        let (negative, s) := readSign s
        let (ds, rest) ← readDigits Char.isDigit s
        some (signed negative (Nat.ofDigitChars 10 ds 0), rest)
      else some (0, c :: s)
  | [] => some (0, [])

def withSign (negative : Bool) (x : Binary64) : Binary64 := { x with negative := negative }

/-- A number with a fraction or an exponent. One that is too large is an error, except below zero. -/
def readFiniteFloat (s : List Char) : Option (Value × List Char) := do
  let (negative, s) := readSign s
  let (whole, s) ← readDecimalDigits s
  let (fraction, afterFraction) ← readFraction s
  let (exponent, rest) ← readExponent afterFraction
  if rest.length = s.length then none
  else
    let x := Binary64.ofDecimal
      ⟨Nat.ofDigitChars 10 (whole ++ fraction) 0, exponent - fraction.length⟩
    if x.isInfinite && !negative then none else some (.float (withSign negative x), rest)

def notANumber : Binary64 := Binary64.invalid.neg

def readNamedFloat (s : List Char) : Option (Value × List Char) :=
  match readSign s with
  | (negative, 'i' :: 'n' :: 'f' :: rest) => some (.float (Binary64.infinity negative), rest)
  | (negative, 'n' :: 'a' :: 'n' :: rest) => some (.float (withSign negative notANumber), rest)
  | _ => none

def readTwo (low high : Nat) : List Char → Option (Nat × List Char)
  | a :: b :: s =>
      let n := Nat.ofDigitChars 10 [a, b] 0
      if a.isDigit && b.isDigit && low ≤ n && n ≤ high then some (n, s) else none
  | _ => none

def skipDate (s : List Char) : Option (List Char) := do
  let year := s.take 4
  if year.length = 4 ∧ year.all Char.isDigit then
    let s ← expect '-' (s.drop 4)
    let (month, s) ← readTwo 1 12 s
    let s ← expect '-' s
    let (_, s) ← readTwo 1 (Date.monthLength (Nat.ofDigitChars 10 year 0) month) s
    some s
  else none

def skipSecondFraction : List Char → Option (List Char)
  | '.' :: s =>
      match s.takeWhile Char.isDigit with
      | [] => none
      | ds => some (s.drop ds.length)
  | s => some s

/-- A minute may have a leap second. -/
def skipTime (s : List Char) : Option (List Char) := do
  let (_, s) ← readTwo 0 23 s
  let s ← expect ':' s
  let (_, s) ← readTwo 0 59 s
  let s ← expect ':' s
  let (_, s) ← readTwo 0 60 s
  skipSecondFraction s

def skipOffset : List Char → Option (List Char)
  | [] => some []
  | c :: s =>
      if c = 'Z' ∨ c = 'z' then some s
      else if c = '+' ∨ c = '-' then do
        let (_, s) ← readTwo 0 23 s
        let s ← expect ':' s
        let (_, s) ← readTwo 0 59 s
        some s
      else some (c :: s)

def skipTimeOfDay : List Char → List Char
  | [] => []
  | c :: s =>
      if c = 'T' ∨ c = 't' ∨ c = ' ' then ((skipTime s).bind skipOffset).getD (c :: s) else c :: s

def skipMoment (s : List Char) : Option (List Char) :=
  ((skipDate s).map skipTimeOfDay).orElse fun _ => skipTime s

def readMoment (s : List Char) : Option (Value × List Char) :=
  (skipMoment s).map fun rest =>
    (.moment (String.ofList (s.take (s.length - rest.length))), rest)

def readNumber (s : List Char) : Option (Value × List Char) :=
  (readMoment s).orElse fun _ =>
    (readFiniteFloat s).orElse fun _ =>
      (readNamedFloat s).orElse fun _ => readInteger s

def writeInteger (n : Int) : List Char :=
  if n < 0 then '-' :: Nat.toDigits 10 n.natAbs else Nat.toDigits 10 n.natAbs

def writeMagnitude (x : Binary64) : List Char :=
  let (whole, fraction) := if x.isZero then (['0'], []) else x.shortest.positional
  whole ++ '.' :: if fraction = [] then ['0'] else fraction

def writeFloat (x : Binary64) : List Char :=
  if x.isNaN then ['n', 'a', 'n']
  else
    (if x.negative then ['-'] else []) ++
      if x.isInfinite then ['i', 'n', 'f'] else writeMagnitude x

end Briefing.Toml
