/-!
# Why a stored result cannot be used

The causes for which an artifact, a stored result of earlier work, cannot be read or written, and
their messages.  Where the system or the decoder has a reason of its own, the message ends before
it.
-/

namespace NewsScoring

/-- Why an artifact cannot be used. -/
inductive ArtifactError where
  /-- The file cannot be opened or written; the flag tells whether it does not exist. -/
  | io (path : String) (missing : Bool)
  /-- The file does not hold a value of the expected form. -/
  | decode (path : String)
  /-- The value cannot be written. -/
  | encode (path : String)
  /-- The value contradicts itself. -/
  | corrupt (path reason : String)
  deriving DecidableEq, Repr

namespace ArtifactError

/-- Whether the file does not exist. -/
def isMissing : ArtifactError → Bool
  | .io _ missing => missing
  | _ => false

/-- The message about a cause. -/
def message : ArtifactError → String
  | .io path _ => "artifact io error at " ++ path ++ ": "
  | .decode path => "failed to decode artifact " ++ path ++ ": "
  | .encode path => "failed to encode artifact " ++ path ++ ": "
  | .corrupt path reason => "corrupt artifact " ++ path ++ ": " ++ reason

end ArtifactError

end NewsScoring
