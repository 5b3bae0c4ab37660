import NewsScoring.Disk
import NewsScoring.KeyedList
import NewsScoring.Path

/-!
# Trees of files

A `FileTree` holds files and directories under the parts of their paths, seen from the directory in
which the program runs.  A path is followed part by part: a dot stays where it is, two dots go back,
and nothing can be followed through a file.  `write` makes the directories above a file.
-/

namespace NewsScoring

/-- Files and directories under the parts of their paths. -/
structure FileTree where
  entries : KeyedList (List String) Content

namespace FileTree

/-- The tree without files. -/
def empty : FileTree := ⟨KeyedList.empty⟩

/-- What stands at a place; the place without parts is a directory. -/
def lookup (tree : FileTree) (place : List String) : Option Content :=
  if place.isEmpty then some .directory else tree.entries.find? place

/-- The place one part further. -/
def follow (place : List String) (part : String) : List String :=
  if Path.isIdle part then place
  else if part == ".." then place.dropLast
  else place ++ [part]

/-- The place one part further, if the present one is a directory. -/
def step (tree : FileTree) (place : List String) (part : String) : Except Absence (List String) :=
  match tree.lookup place with
  | some .directory => .ok (follow place part)
  | some _ => .error .unreachable
  | none => .error .missing

/-- The place that a path leads to, whether there is something or not. -/
def resolve (tree : FileTree) (path : String) : Except Absence (List String) :=
  if path.isEmpty || Path.isAbsolute path then .error .missing
  else (Path.parts path).foldlM tree.step []

/-- What a path leads to. -/
def disk (tree : FileTree) : Disk := fun path => do
  match tree.lookup (← tree.resolve path) with
  | some content => .ok content
  | none => .error .missing

/-- The tree with a directory at a place where there was nothing. -/
def makeDirectory (tree : FileTree) (place : List String) : FileTree :=
  match tree.lookup place with
  | none => ⟨tree.entries.put place .directory⟩
  | some _ => tree

/-- The tree in which the given parts lead from a place to a directory, and that place. -/
def makeDirectories (tree : FileTree) (place : List String) :
    List String → Except Absence (FileTree × List String)
  | [] => .ok (tree, place)
  | part :: rest => do
    let place ← tree.step place part
    (tree.makeDirectory place).makeDirectories place rest

/-- The tree with a file written to a path.  A path that ends in a slash, a directory, or a path
through a file cannot be written to. -/
def write (tree : FileTree) (path : String) (content : Content) : Except Absence FileTree := do
  if path.isEmpty then .error .missing
  if Path.isAbsolute path then .error .unreachable
  let parts := Path.parts path
  let (tree, directory) ← tree.makeDirectories [] parts.dropLast
  -- the last part is followed without being made a directory
  let place ← tree.step directory (parts.getLastD "")
  match tree.lookup place with
  | some .directory => .error .unreachable
  | _ => .ok ⟨tree.entries.put place content⟩

/-- Whether something is a file. -/
def isFile : Content → Bool
  | .directory => false
  | _ => true

/-- Removes the file that a path leads to; the flag tells whether there was one. -/
def remove (tree : FileTree) (path : String) : Bool × FileTree :=
  match tree.resolve path with
  | .ok place =>
    if (tree.lookup place).any isFile then (true, ⟨tree.entries.erase place⟩) else (false, tree)
  | .error _ => (false, tree)

end FileTree

end NewsScoring
