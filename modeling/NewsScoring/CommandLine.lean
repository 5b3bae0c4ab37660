import NewsScoring.Engine
import NewsScoring.Json.Document
import NewsScoring.Report

/-!
# The command line

The arguments are a configuration file and files of documents.  Each document that can be read and
scored gets a line of output, in the order of the arguments; the others do not stop it.  The exit
code is zero if all of them got one.  Nothing is printed without an engine.  What is logged beside
the output is left out.
-/

namespace NewsScoring.CommandLine

/-- How the program is called. -/
def usage : String :=
  "Usage: feature-scorer <config.toml> <document.json>...\n" ++
    "Each document is printed as one JSON line: \x7b\"id\":..,\"scores\":[..]\x7d\n"

/-- Whether an argument asks for the usage. -/
def isHelp (argument : String) : Bool :=
  argument == "-h" || argument == "--help"

/-- The document in a file.  One without an identifier gets the path of the file as its own. -/
def readDocument (disk : Disk) (path : String) : Option Document := do
  let document ← Document.ofJson? (← disk.text? path)
  return if document.id.isEmpty then { document with id := path } else document

/-- The report on the document in a file, if it can be read and scored, and the engine after it. -/
def report (disk : Disk) (engine : Engine) (path : String) : Option Report × Engine :=
  match readDocument disk path with
  | none => (none, engine)
  | some document =>
    match engine.classify disk document with
    | (.ok scores, engine) => (some ⟨document.id, scores⟩, engine)
    | (.error _, engine) => (none, engine)

/-- The reports on the documents in files, one after the other. -/
def reports (disk : Disk) (engine : Engine) : List String → List (Option Report)
  | [] => []
  | path :: rest =>
    let (report, engine) := report disk engine path
    report :: reports disk engine rest

/-- What the program leaves behind. -/
structure Outcome where
  lines : List String
  code : Nat
  /-- What is said about a wrong call. -/
  complaint : Option String := none
  deriving DecidableEq, Repr

/-- The outcome of scoring documents, given the reports on them. -/
def outcomeOf (reports : List (Option Report)) : Outcome where
  lines := (reports.filterMap id).map Report.render
  code := if reports.all Option.isSome then 0 else 1

/-- The engine of a configuration file. -/
def loadEngine (disk : Disk) (path : String) : Except BuildFailure Engine :=
  match Config.load disk path with
  | .error cause => .error (.refused cause)
  | .ok config => Engine.ofConfig config disk

/-- The exit code of a call without an engine: an error is reported by the program itself, an abort
by the code of its own. -/
def failureCode : BuildFailure → Nat
  | .refused _ => 1
  | .aborted => 101

/-- The outcome of scoring the documents in files by a configuration file. -/
def score (disk : Disk) (config : String) (documents : List String) : Outcome :=
  match loadEngine disk config with
  | .error failure => ⟨[], failureCode failure, none⟩
  | .ok engine => outcomeOf (reports disk engine documents)

/-- The outcome of a call with the given arguments. -/
def run (disk : Disk) (arguments : List String) : Outcome :=
  match arguments with
  | config :: document :: documents =>
    if arguments.any isHelp then ⟨[], 2, some usage⟩
    else score disk config (document :: documents)
  | _ => ⟨[], 2, some usage⟩

end NewsScoring.CommandLine
