import Briefing.Text.Hex

namespace Briefing

inductive Json where
  | null
  | bool (b : Bool)
  | number (mantissa exponent : Int)
  | text (s : String)
  | array (items : List Json)
  | object (fields : List (String × Json))

namespace Json

def ofNat (n : Nat) : Json := .number n 0

def ofTexts (items : List String) : Json := .array (items.map .text)

def escaped (c : Char) : List Char :=
  match c with
  | '"' => ['\\', '"']
  | '\\' => ['\\', '\\']
  | '\x08' => ['\\', 'b']
  | '\x0c' => ['\\', 'f']
  | '\n' => ['\\', 'n']
  | '\r' => ['\\', 'r']
  | '\t' => ['\\', 't']
  | c =>
      if c.toNat < 0x20 then
        ['\\', 'u', '0', '0', Text.hexDigit (c.toNat / 16), Text.hexDigit (c.toNat % 16)]
      else [c]

def quoted (s : String) : List Char := '"' :: s.toList.flatMap escaped ++ ['"']

def intText (n : Int) : List Char :=
  if n < 0 then '-' :: Nat.toDigits 10 n.natAbs else Nat.toDigits 10 n.natAbs

def numberText (mantissa exponent : Int) : List Char :=
  if exponent = 0 then intText mantissa else intText mantissa ++ 'e' :: intText exponent

structure Layout where
  inner : Nat → List Char
  outer : Nat → List Char
  colon : List Char

def compact : Layout := ⟨fun _ => [], fun _ => [], [':']⟩

def newline (depth : Nat) : List Char := '\n' :: List.replicate (2 * depth) ' '

def pretty : Layout := ⟨fun depth => newline (depth + 1), newline, [':', ' ']⟩

mutual

def write (l : Layout) (depth : Nat) : Json → List Char
  | .null => "null".toList
  | .bool b => (if b then "true" else "false").toList
  | .number m e => numberText m e
  | .text s => quoted s
  | .array [] => ['[', ']']
  | .array (item :: items) =>
      '[' :: l.inner depth ++ write l (depth + 1) item ++ writeItems l depth items ++
        l.outer depth ++ [']']
  | .object [] => ['{', '}']
  | .object ((key, value) :: fields) =>
      '{' :: l.inner depth ++ quoted key ++ l.colon ++ write l (depth + 1) value ++
        writeFields l depth fields ++ l.outer depth ++ ['}']

def writeItems (l : Layout) (depth : Nat) : List Json → List Char
  | [] => []
  | item :: items =>
      ',' :: l.inner depth ++ write l (depth + 1) item ++ writeItems l depth items

def writeFields (l : Layout) (depth : Nat) : List (String × Json) → List Char
  | [] => []
  | (key, value) :: fields =>
      ',' :: l.inner depth ++ quoted key ++ l.colon ++ write l (depth + 1) value ++
        writeFields l depth fields

end

def compactText (j : Json) : String := String.ofList (write compact 0 j)

def prettyText (j : Json) : String := String.ofList (write pretty 0 j)

end Json

end Briefing
