/-!
# Paths

A path is a text whose parts stand between slashes.  It is absolute if it starts with a slash.
`join` puts a path behind a directory, and `parent?` takes the last part off; both keep the rest of
the text as it is written.
-/

namespace NewsScoring.Path

/-- The runs of characters between slashes. -/
def splitSlash : List Char → List (List Char)
  | [] => [[]]
  | '/' :: rest => [] :: splitSlash rest
  | c :: rest =>
    match splitSlash rest with
    | part :: parts => (c :: part) :: parts
    | [] => [[c]]

/-- The parts of a path, empty ones included. -/
def parts (path : String) : List String :=
  (splitSlash path.toList).map String.ofList

/-- Whether a path starts at the root. -/
def isAbsolute (path : String) : Bool :=
  path.toList.head? == some '/'

/-- Whether a path starts at the directory in which the program runs. -/
def isRelative (path : String) : Bool :=
  !isAbsolute path

/-- A path as seen from a directory: the path itself if it is absolute. -/
def join (directory path : String) : String :=
  if isAbsolute path then path
  else if directory.isEmpty || directory.toList.getLast? == some '/' then directory ++ path
  else directory ++ "/" ++ path

/-- Whether a part names nothing: it is empty, or a single dot. -/
def isIdle (part : String) : Bool :=
  part.isEmpty || part == "."

/-- The parts without those at the end that name nothing. -/
def dropIdle (parts : List String) : List String :=
  (parts.reverse.dropWhile isIdle).reverse

/-- The parts without the last one that names something, if there is one; `lead` are parts in front
of them that are kept, or taken off last. -/
def dropPart? (lead : List String) (parts : List String) : Option (List String) :=
  match dropIdle parts with
  | [] => if lead.isEmpty then none else some []
  | named => some (lead ++ dropIdle named.dropLast)

/-- The directory that a path lies in: the path without its last part.  The empty path and the root
lie in none. -/
def parent? (path : String) : Option String :=
  match parts path with
  | "" :: rest =>
    if isAbsolute path then
      (dropPart? [] rest).map fun parts => "/" ++ String.intercalate "/" parts
    else none
  | "." :: rest => (dropPart? ["."] rest).map (String.intercalate "/")
  | all => (dropPart? [] all).map (String.intercalate "/")

end NewsScoring.Path
