import NewsScoring.Toml.Value

/-!
# Tables of TOML

The tables of a document grow line by line.  Each remembers how it came about, which decides what
may be added to it: a header may name a table only once, a header of a list of tables starts another
one, and a key with dots adds only to tables that such keys have made.
-/

namespace NewsScoring.Toml

/-- How a table has come about. -/
inductive Origin where
  /-- By its own header, or in braces. -/
  | header
  /-- As a table on the way to that of a header. -/
  | passed
  /-- By a key with dots. -/
  | dotted
  deriving DecidableEq, Repr

/-- What a key stands for. -/
inductive Node where
  | value (value : Value)
  | table (origin : Origin) (entries : List (String × Node))
  /-- Tables under headers with two brackets, the last one first. -/
  | tables (reversed : List (List (String × Node)))

/-- The keys of a table with what they stand for. -/
abbrev Outline := List (String × Node)

namespace Outline

/-- The outline with a key put in place of what it stood for. -/
def put (key : String) (node : Node) : Outline → Outline
  | [] => [(key, node)]
  | entry :: rest => if entry.1 == key then (key, node) :: rest else entry :: put key node rest

/-- The outline with a change to the table at the end of a path.  The last table of a list of tables
stands for the list.  A path of a key with dots (`byKey`) makes the tables that are missing and does
not lead through tables with a header. -/
def alter (byKey : Bool) (change : Origin → Outline → Option Outline) :
    List String → Origin → Outline → Option Outline
  | [], origin, outline => change origin outline
  | key :: path, _, outline =>
    match outline.lookup key with
    | none =>
      let origin := if byKey then .dotted else .passed
      (alter byKey change path origin []).map fun inner => put key (.table origin inner) outline
    | some (.table origin inner) =>
      if byKey && origin == .header then none
      else (alter byKey change path origin inner).map fun inner =>
        put key (.table origin inner) outline
    | some (.tables (last :: earlier)) =>
      -- a path through a list of tables goes on in the last of them
      (alter byKey change path .header last).map fun last =>
        put key (.tables (last :: earlier)) outline
    | some (.tables []) => none
    | some (.value _) => none

/-- The outline with a value under a new key.  The key may be the last part of a path, which then
has to lead to a table that such paths have made. -/
def addValue (path : List String) (value : Value) (outline : Outline) : Option Outline :=
  match path.getLast? with
  | none => none
  | some key =>
    alter true (fun origin inner =>
      if path.length != 1 && origin != .dotted then none
      else if (inner.lookup key).isSome then none
      else some (put key (.value value) inner)) path.dropLast .header outline

/-- The outline with the table of a header. -/
def addTable (path : List String) (outline : Outline) : Option Outline :=
  match path.getLast? with
  | none => none
  | some key =>
    alter false (fun _ inner =>
      match inner.lookup key with
      | none => some (put key (.table .header []) inner)
      | some (.table .passed entries) => some (put key (.table .header entries) inner)
      | some _ => none) path.dropLast .header outline

/-- The outline with another table under a header with two brackets. -/
def addToTables (path : List String) (outline : Outline) : Option Outline :=
  match path.getLast? with
  | none => none
  | some key =>
    alter false (fun _ inner =>
      match inner.lookup key with
      | none => some (put key (.tables [[]]) inner)
      | some (.tables reversed) => some (put key (.tables ([] :: reversed)) inner)
      | some _ => none) path.dropLast .header outline

/-- The outline with a value under a key below the header at the end of `header`. -/
def addBelow (header path : List String) (value : Value) (outline : Outline) : Option Outline :=
  alter false (fun _ inner => addValue path value inner) header .header outline

end Outline

mutual

/-- The value that a key stands for. -/
def Node.toValue : Node → Value
  | .value value => value
  | .table _ entries => .table (entryValues entries)
  | .tables reversed => .array (tableValues [] reversed)

/-- The entries of a table as values. -/
def entryValues : List (String × Node) → List (String × Value)
  | [] => []
  | (key, node) :: rest => (key, node.toValue) :: entryValues rest

/-- The tables of a list as values, in order, in front of the values `found`. -/
def tableValues (found : List Value) : List (List (String × Node)) → List Value
  | [] => found
  | entries :: rest => tableValues (.table (entryValues entries) :: found) rest

end

/-- The value of a table. -/
def Outline.toValue (outline : Outline) : Value :=
  .table (entryValues outline)

end NewsScoring.Toml
