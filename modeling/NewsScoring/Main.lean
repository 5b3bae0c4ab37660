import NewsScoring.CommandLine.Snapshot

/-!
# The program

Reads the files that the call wants, runs it on them and prints what comes of it.
-/

namespace NewsScoring.CommandLine

/-- What a path leads to. -/
def readContent (path : String) : IO (Except Absence Content) := do
  try
    return .ok (Content.ofBytes (← IO.FS.readBinFile path).toList)
  catch error =>
    match error with
    | .noFileOrDirectory .. => return .error .missing
    | _ => return .error .unreachable

/-- The snapshot with the files that a call wants and that are not in it yet. -/
def extend (arguments : List String) (snapshot : Snapshot) : IO Snapshot := do
  let mut snapshot := snapshot
  for path in wantedPaths snapshot.disk arguments do
    if (snapshot.lookup path).isNone then
      snapshot := (path, ← readContent path) :: snapshot
  return snapshot

end NewsScoring.CommandLine

open NewsScoring.CommandLine in
/-- Runs the command line on the files that it wants. -/
def main (arguments : List String) : IO UInt32 := do
  let mut snapshot : Snapshot := []
  for _ in List.range rounds do
    snapshot ← extend arguments snapshot
  let outcome := run snapshot.disk arguments
  for line in outcome.lines do
    IO.println line
  if let some complaint := outcome.complaint then
    IO.eprint complaint
  return outcome.code.toUInt32
