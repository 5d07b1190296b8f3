import Briefing.Json.Reader
import Mathlib.Data.List.TakeWhile

namespace Briefing.Json

-- The grammar of a JSON text, with the value that each part of it stands for.

def Gap (g : List Char) : Prop := ∀ c ∈ g, isGap c = true

def Hex (digits : List Char) (n : Nat) : Prop :=
  digits.length = 4 ∧ Text.hexNumber digits = some n

inductive Spells : List Char → Char → Prop
  | plain {c : Char} : 0x20 ≤ c.toNat → c ≠ '"' → c ≠ '\\' → Spells [c] c
  | short {e c : Char} : shortEscape e = some c → Spells ['\\', e] c
  | unit {digits : List Char} {n : Nat} : Hex digits n → isHighHalf n = false →
      isLowHalf n = false → Spells ('\\' :: 'u' :: digits) (Char.ofNat n)
  | halves {first second : List Char} {high low : Nat} : Hex first high → Hex second low →
      isHighHalf high = true → isLowHalf low = true →
      Spells ('\\' :: 'u' :: first ++ '\\' :: 'u' :: second)
        (Char.ofNat (0x10000 + (high - 0xd800) * 0x400 + (low - 0xdc00)))

inductive Spelled : List Char → List Char → Prop
  | nil : Spelled [] []
  | cons {t ts : List Char} {c : Char} {cs : List Char} : Spells t c → Spelled ts cs →
      Spelled (t ++ ts) (c :: cs)

inductive IsText : List Char → String → Prop
  | mk {t : List Char} {s : String} : Spelled t s.toList → IsText ('"' :: t ++ ['"']) s

def Digits (ds : List Char) : Prop := ds ≠ [] ∧ ∀ c ∈ ds, c.isDigit = true

inductive Whole : List Char → Prop
  | zero : Whole ['0']
  | digits {ds : List Char} : Digits ds → ds.head? ≠ some '0' → Whole ds

inductive Fraction : List Char → List Char → Prop
  | absent : Fraction [] []
  | digits {ds : List Char} : Digits ds → Fraction ('.' :: ds) ds

inductive Exponent : List Char → Int → Prop
  | absent : Exponent [] 0
  | unsigned {mark : Char} {ds : List Char} : mark = 'e' ∨ mark = 'E' → Digits ds →
      Exponent (mark :: ds) (signedDigits false ds)
  | plus {mark : Char} {ds : List Char} : mark = 'e' ∨ mark = 'E' → Digits ds →
      Exponent (mark :: '+' :: ds) (signedDigits false ds)
  | minus {mark : Char} {ds : List Char} : mark = 'e' ∨ mark = 'E' → Digits ds →
      Exponent (mark :: '-' :: ds) (signedDigits true ds)

def sign (negative : Bool) : List Char := if negative then ['-'] else []

inductive IsNumber : List Char → Json → Prop
  | mk {negative : Bool} {whole f fraction x : List Char} {exponent : Int} : Whole whole →
      Fraction f fraction → Exponent x exponent →
      IsNumber (sign negative ++ whole ++ f ++ x)
        (.number (signedDigits negative (whole ++ fraction)) (exponent - fraction.length))

inductive Parts {α : Type} (part : List Char → α → Prop) : List Char → List α → Prop
  | last {a t b : List Char} {x : α} : Gap a → part t x → Gap b → Parts part (a ++ t ++ b) [x]
  | more {a t b ts : List Char} {x : α} {xs : List α} : Gap a → part t x → Gap b →
      Parts part ts xs → Parts part (a ++ t ++ b ++ ',' :: ts) (x :: xs)

inductive Field (value : List Char → Json → Prop) : List Char → String × Json → Prop
  | mk {k a b t : List Char} {key : String} {j : Json} : IsText k key → Gap a → Gap b →
      value t j → Field value (k ++ a ++ ':' :: b ++ t) (key, j)

inductive Denotes : List Char → Json → Prop
  | null : Denotes "null".toList .null
  | yes : Denotes "true".toList (.bool true)
  | no : Denotes "false".toList (.bool false)
  | number {t : List Char} {j : Json} : IsNumber t j → Denotes t j
  | text {t : List Char} {s : String} : IsText t s → Denotes t (.text s)
  | noItems {g : List Char} : Gap g → Denotes ('[' :: g ++ [']']) (.array [])
  | items {t : List Char} {js : List Json} : Parts Denotes t js →
      Denotes ('[' :: t ++ [']']) (.array js)
  | noFields {g : List Char} : Gap g → Denotes ('{' :: g ++ ['}']) (.object [])
  | fields {t : List Char} {fs : List (String × Json)} : Parts (Field Denotes) t fs →
      Denotes ('{' :: t ++ ['}']) (.object fs)

def Reads (text : String) (j : Json) : Prop :=
  ∃ a t b, text.toList = a ++ t ++ b ∧ Gap a ∧ Denotes t j ∧ Gap b

end Briefing.Json
