namespace Briefing.Text

def closeLine : List Char → List Char
  | '\r' :: line => line.reverse
  | line => line.reverse

def linesFrom (line : List Char) : List Char → List (List Char)
  | [] => if line = [] then [] else [line.reverse]
  | c :: cs => if c = '\n' then closeLine line :: linesFrom [] cs else linesFrom (c :: line) cs

/-- The lines of a text. Text after the last feed is a line of its own, carriage return included,
and there is no empty line after a final feed. -/
def lines (s : String) : List String := (linesFrom [] s.toList).map String.ofList

def unlines (ls : List String) : String := String.intercalate "\n" ls

end Briefing.Text
