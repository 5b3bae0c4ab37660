import NewsScoring.Toml.Key
import NewsScoring.Toml.Outline
import NewsScoring.Toml.Scalar

/-!
# Reading TOML

`Value.ofText?` reads a document: lines with a key and its value, and headers that name the table to
which the following lines add.  Arrays may go over several lines; tables in braces may not.  Both
can be nested up to a depth of 79.
-/

namespace NewsScoring.Toml

/-- A reader of something at the start of a text; it gives what is behind. -/
abbrev Reader (β : Type) := List Char → Option (β × List Char)

/-! ### Values -/

/-- Whether a character ends a word. -/
def endsWord (c : Char) : Bool :=
  isBlank c || c == '\n' || c == '\r' || c == '#' || c == ',' || c == ']' || c == '\x7d'

/-- The word at the start of a text. -/
def word (text : List Char) : List Char :=
  text.takeWhile (!endsWord ·)

/-- The text behind the word at its start. -/
def afterWord (text : List Char) : List Char :=
  text.dropWhile (!endsWord ·)

/-- What is behind a time of day that follows a date after one blank. -/
def afterLooseTime? : List Char → Option (List Char)
  | ' ' :: rest => if isTimeWithOffset (word rest) then some (afterWord rest) else none
  | _ => none

/-- The value of a word, and what is behind it. -/
def word? (text : List Char) : Option (Value × List Char) := do
  let value ← scalar? (word text)
  if isDate (word text) then
    return (value, (afterLooseTime? (afterWord text)).getD (afterWord text))
  return (value, afterWord text)

/-- The items of an array behind the reversed items `done`, and what is behind the array; `fuel`
bounds their number. -/
def items? (read : Reader Value) (done : List Value) : Nat → Reader (List Value)
  | 0, _ => none
  | fuel + 1, text =>
    match dropLines false text with
    | ']' :: rest => some (done.reverse, rest)
    | text =>
      match read text with
      | none => none
      | some (value, rest) =>
        match dropLines false rest with
        | ',' :: rest => items? read (value :: done) fuel rest
        | ']' :: rest => some ((value :: done).reverse, rest)
        | _ => none

/-- A key with its value, and what is behind them. -/
def assignment? (read : Reader Value) (text : List Char) :
    Option ((List String × Value) × List Char) := do
  match ← key? text with
  | (path, '=' :: rest) =>
    let (value, rest) ← read (dropBlanks rest)
    return ((path, value), dropBlanks rest)
  | _ => none

/-- The entries of a table in braces, added to those in `outline`, and what is behind the table;
`fuel` bounds their number. -/
def entries? (read : Reader Value) (outline : Outline) : Nat → Reader Outline
  | 0, _ => none
  | fuel + 1, text =>
    match assignment? read text with
    | none => none
    | some ((path, value), rest) =>
      match outline.addValue path value, rest with
      | some outline, ',' :: rest => entries? read outline fuel rest
      | some outline, '\x7d' :: rest => some (outline, rest)
      | _, _ => none

/-- The value at the start of a text, where values inside brackets or braces are read by `inner`;
there is none where the depth is used up. -/
def valueWith? (inner : Option (Reader Value)) : Reader Value
  | '[' :: rest => do
    let (items, rest) ← items? (← inner) [] (rest.length + 1) rest
    return (.array items, rest)
  | '\x7b' :: rest => do
    let read ← inner
    match dropBlanks rest with
    | '\x7d' :: rest => return (.table [], rest)
    | _ =>
      let (outline, rest) ← entries? read [] (rest.length + 1) rest
      return (outline.toValue, rest)
  | '"' :: rest => do
    let (s, rest) ← text? ('"' :: rest)
    return (.text s, rest)
  | '\'' :: rest => do
    let (s, rest) ← text? ('\'' :: rest)
    return (.text s, rest)
  | text => word? text

/-- The value at the start of a text, nested up to the given depth. -/
def value? : Nat → Reader Value
  | 0 => valueWith? none
  | depth + 1 => valueWith? (some (value? depth))

/-- How deep arrays and tables in braces may be nested. -/
def maxDepth : Nat := 79

/-! ### Lines -/

/-- What a line says. -/
inductive Statement where
  | header (path : List String)
  | listHeader (path : List String)
  | assignment (path : List String) (value : Value)

/-- The statement at the start of a text, and what is behind it. -/
def statement? : Reader Statement
  | '[' :: '[' :: rest => do
    match ← key? rest with
    | (path, ']' :: ']' :: rest) => return (.listHeader path, rest)
    | _ => none
  | '[' :: rest => do
    match ← key? rest with
    | (path, ']' :: rest) => return (.header path, rest)
    | _ => none
  | text => do
    let ((path, value), rest) ← assignment? (value? maxDepth) text
    return (.assignment path value, rest)

/-- The statements of a text behind the reversed statements `done`; `fuel` bounds the number of
lines. -/
def statements? (done : List Statement) : Nat → List Char → Option (List Statement)
  | 0, _ => none
  | fuel + 1, text =>
    if text.isEmpty then some done.reverse
    else match afterLine? text with
      | some rest => statements? done fuel rest
      | none =>
        match statement? (dropBlanks text) with
        | none => none
        | some (statement, rest) =>
          match afterLine? rest with
          | some rest => statements? (statement :: done) fuel rest
          | none => none

/-! ### Documents -/

/-- The tables so far, and the path of the last header. -/
structure Draft where
  outline : Outline
  header : List String

/-- The draft with one more statement. -/
def Draft.add (draft : Draft) : Statement → Option Draft
  | .header path => (draft.outline.addTable path).map (⟨·, path⟩)
  | .listHeader path => (draft.outline.addToTables path).map (⟨·, path⟩)
  | .assignment path value =>
    (draft.outline.addBelow draft.header path value).map (⟨·, draft.header⟩)

/-- The characters of a text without the mark of the byte order. -/
def withoutMark : List Char → List Char
  | '\uFEFF' :: rest => rest
  | text => text

/-- The table of a TOML document. -/
def Value.ofText? (text : String) : Option Value := do
  let text := withoutMark text.toList
  let statements ← statements? [] (text.length + 1) text
  let draft ← statements.foldlM Draft.add ⟨[], []⟩
  return draft.outline.toValue

end NewsScoring.Toml
