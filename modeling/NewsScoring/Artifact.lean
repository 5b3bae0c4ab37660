import NewsScoring.Artifact.Error
import NewsScoring.Disk
import NewsScoring.Distribution.Inspection
import NewsScoring.Distribution.Stored
import NewsScoring.TermBag.Inspection
import NewsScoring.TermBag.Stored

/-!
# Artifacts

An artifact is a compressed file with the CBOR item of counted terms or of a distribution.  What is
read back is checked: counts and checkpoints that contradict themselves are refused as corrupt.
-/

namespace NewsScoring.Artifact

open Cbor

/-- The file that holds an item. -/
def content (item : Item Float) : Content :=
  .compressed (item.toBytes .shortest)

/-- The file that holds counted terms. -/
def ofBag (bag : TermBag) : Content :=
  content bag.toItem

/-- The file that holds a distribution. -/
def ofDistribution (distribution : Distribution Float) : Content :=
  content distribution.toItem

/-- The item in a file. -/
def item? : Content → Option (Item Float)
  | .compressed payload => Item.ofBytes? .shortest payload
  | .plain _ => none
  | .directory => none

/-- The value that an artifact has by the reader `ofItem?`. -/
def read {β : Type} (disk : Disk) (path : String) (ofItem? : Item Float → Option β) :
    Except ArtifactError β :=
  match disk path with
  | .error .missing => .error (.io path true)
  | .error .unreachable => .error (.io path false)
  | .ok content =>
    match (item? content).bind ofItem? with
    | some value => .ok value
    | none => .error (.decode path)

/-- The counted terms in an artifact. -/
def readBag (disk : Disk) (path : String) : Except ArtifactError TermBag := do
  let (documentCount, parts) ← read disk path TermBag.parts?
  match TermBag.ofParts documentCount parts with
  | .ok bag => return bag
  | .error defect => throw (.corrupt path defect.message)

/-- The distribution in an artifact. -/
def readDistribution (disk : Disk) (path : String) : Except ArtifactError (Distribution Float) := do
  let (sampleCount, checkpoints) ← read disk path Distribution.parts?
  match Distribution.ofCheckpoints sampleCount checkpoints with
  | .ok distribution => return distribution
  | .error defect => throw (.corrupt path defect.message)

end NewsScoring.Artifact
