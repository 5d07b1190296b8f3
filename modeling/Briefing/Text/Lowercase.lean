import Briefing.Text.Case

namespace Briefing.Text

def caseOffset : List CaseRun → Nat → Int
  | [], _ => 0
  | r :: rs, n => if n < r.first then 0 else if r.holds n then r.offset else caseOffset rs n

def lowerChar (c : Char) : List Char :=
  if c = 'İ' then ['i', '\u0307'] else [Char.ofNat (c.toNat + caseOffset caseRuns c.toNat).toNat]

def startsCased (s : List Char) : Bool :=
  match s.dropWhile isCaseIgnorable with
  | [] => false
  | c :: _ => isCased c

/-- A capital sigma that ends a word has a small form of its own. `before` is reversed. -/
def lowerAt (before : List Char) (c : Char) (after : List Char) : List Char :=
  if c = 'Σ' then [if startsCased before && !startsCased after then 'ς' else 'σ'] else lowerChar c

/-- `out` and `before` are what has been written and read so far, last character first. -/
def lowerFrom (out before : List Char) : List Char → List Char
  | [] => out.reverse
  | c :: cs => lowerFrom ((lowerAt before c cs).reverse ++ out) (c :: before) cs

def lowercase (s : String) : String := String.ofList (lowerFrom [] [] s.toList)

end Briefing.Text
