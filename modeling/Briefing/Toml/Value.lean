import Briefing.Binary64.Basic

namespace Briefing.Toml

/-- How a table came about: inside braces, by a header of its own, on the way to another header, or
by keys with dots. -/
inductive Origin where
  | braces
  | header
  | implied
  | dotted
  deriving DecidableEq, Repr

inductive Value where
  | text (s : String)
  | integer (n : Int)
  | float (x : Binary64)
  | boolean (b : Bool)
  | moment (written : String)
  | array (items : List Value)
  | table (origin : Origin) (entries : List (String × Value))
  | tables (elements : List (List (String × Value)))

abbrev Entries := List (String × Value)

inductive Statement where
  | table (path : List String)
  | element (path : List String)
  | assign (keys : List String) (value : Value)

def isInteger (n : Int) : Bool := -(1 <<< 63 : Nat) ≤ n && n < (1 <<< 63 : Nat)

end Briefing.Toml
