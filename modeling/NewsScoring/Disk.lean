import NewsScoring.Bytes

/-!
# What can be read

The files that the program reads, as a function from paths to what is found there.  Stored results
are compressed files; what counts of them is the bytes that they unpack to.
-/

namespace NewsScoring

/-- What a path leads to. -/
inductive Content where
  /-- A file that is not compressed. -/
  | plain (bytes : Bytes)
  /-- A compressed file that unpacks to the given bytes. -/
  | compressed (payload : Bytes)
  | directory
  deriving DecidableEq, Repr

/-- Why a path leads nowhere. -/
inductive Absence where
  /-- There is nothing at the path. -/
  | missing
  /-- The path cannot be followed to its end. -/
  | unreachable
  deriving DecidableEq, Repr

/-- What each path leads to. -/
abbrev Disk := String → Except Absence Content

namespace Disk

/-- The text of a file, if it is one and its bytes are UTF-8. -/
def text? (disk : Disk) (path : String) : Option String :=
  match disk path with
  | .ok (.plain bytes) => bytes.text?
  | _ => none

end Disk

end NewsScoring
