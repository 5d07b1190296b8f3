namespace Briefing.Path

def join (dir child : String) : String :=
  match child.toList, dir.toList.getLast? with
  | '/' :: _, _ => child
  | _, none => child
  | _, some '/' => dir ++ child
  | _, some _ => dir ++ "/" ++ child

/-- Drops what adds no step to the end of a path, which is given with its last character first:
separators after a name, and single dots after a separator. -/
def stripTail : List Char → List Char
  | ['/'] => ['/']
  | '/' :: rest => stripTail rest
  | '.' :: '/' :: rest => stripTail ('/' :: rest)
  | rest => rest

/-- The directory that a path lies in: empty for a single name, and none for the root and for the
empty path. -/
def parent? (path : String) : Option String :=
  match stripTail path.toList.reverse with
  | [] => none
  | ['/'] => none
  | s => some (String.ofList (stripTail (s.dropWhile (· != '/'))).reverse)

def names (path : String) : List String :=
  ((path.toList.splitOnP (· == '/')).filter (!·.isEmpty)).map String.ofList

def endsOpen (path : String) : Bool := path.toList.getLast? == some '/'

def isAbsolute (path : String) : Bool := path.toList.head? == some '/'

/-- Of the names in a tree, one that is no text stands with a NUL in it, which no path has. -/
def isText (name : String) : Bool := !name.toList.contains '\x00'

def markdownSuffix : List Char := ".md".toList

/-- A name with the extension of Markdown; a name that is nothing but the extension has none. -/
def isMarkdownName (name : String) : Bool :=
  markdownSuffix.isSuffixOf name.toList && markdownSuffix.length < name.toList.length

end Briefing.Path
