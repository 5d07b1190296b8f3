import Briefing.Toml.Reader

namespace Briefing.Toml

def writeKey (key : String) : List Char :=
  if key ≠ "" ∧ key.toList.all isBareKeyChar then key.toList
  else writeAs key.toList .basic

def writeKeys (keys : List String) : List Char := ['.'].intercalate (keys.map writeKey)

def writeArray (items : List (List Char)) : List Char :=
  match items with
  | [] => ['[', ']']
  | [item] => '[' :: item ++ [']']
  | items => '[' :: '\n' :: items.flatMap (fun item => "    ".toList ++ item ++ [',', '\n']) ++ [']']

def writeBraces (pairs : List (List Char)) : List Char :=
  if pairs = [] then ['{', '}'] else "\x7b ".toList ++ [',', ' '].intercalate pairs ++ " \x7d".toList

mutual

def Value.write : Value → List Char
  | .text s => writeText s.toList
  | .integer n => writeInteger n
  | .float x => writeFloat x
  | .boolean b => (if b then "true" else "false").toList
  | .moment written => written.toList
  | .array items => writeArray (writeValues items)
  | .table _ entries => writeBraces (writeEntries entries)
  | .tables elements => writeArray (writeElements elements)

def writeValues : List Value → List (List Char)
  | [] => []
  | v :: vs => v.write :: writeValues vs

def writeEntries : List (String × Value) → List (List Char)
  | [] => []
  | (key, v) :: es => (writeKey key ++ " = ".toList ++ v.write) :: writeEntries es

def writeElements : List (List (String × Value)) → List (List Char)
  | [] => []
  | es :: rest => writeBraces (writeEntries es) :: writeElements rest

end

def Statement.write : Statement → List Char
  | .table path => '[' :: writeKeys path ++ [']', '\n']
  | .element path => '[' :: '[' :: writeKeys path ++ [']', ']', '\n']
  | .assign keys v => writeKeys keys ++ " = ".toList ++ v.write ++ ['\n']

def Statement.isHeader : Statement → Bool
  | .assign .. => false
  | _ => true

def writeStatements (statements : List Statement) : List Char :=
  statements.flatMap fun st => (if st.isHeader then ['\n'] else []) ++ st.write

end Briefing.Toml
