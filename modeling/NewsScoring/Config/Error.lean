import NewsScoring.Category
import NewsScoring.Disk

/-!
# Why a configuration is refused

The causes for which a configuration or a catalogue cannot be used, and their messages.  Where the
system or the reader has a reason of its own, the message ends before it.
-/

namespace NewsScoring

/-- Why a configuration or a catalogue cannot be used. -/
inductive ConfigError where
  /-- The file cannot be read as text. -/
  | io (path : String)
  /-- The text is not well-formed, or a value is not of the right kind. -/
  | parse (path : String)
  /-- A setting has a value that it may not have. -/
  | invalid (field reason : String)
  /-- Two features have the same number. -/
  | duplicateFeatureId (id : FeatureId)
  /-- No feature of a catalogue with the given number of entries could be loaded. -/
  | emptyRegistry (entries : Nat)
  deriving DecidableEq, Repr

namespace ConfigError

/-- The message about a cause. -/
def message : ConfigError → String
  | .io path => "failed to read " ++ path ++ ": "
  | .parse path => "failed to parse " ++ path ++ ": "
  | .invalid field reason => "invalid value for " ++ field ++ ": " ++ reason
  | .duplicateFeatureId id =>
    "feature id " ++ id.repr ++ " appears more than once in the catalogue"
  | .emptyRegistry entries =>
    "no valid features could be loaded from " ++ entries.repr ++ " catalogue entries"

end ConfigError

/-- The text of a file. -/
def Disk.read (disk : Disk) (path : String) : Except ConfigError String :=
  match disk.text? path with
  | some text => .ok text
  | none => .error (.io path)

end NewsScoring
