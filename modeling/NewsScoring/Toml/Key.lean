import NewsScoring.Toml.Text

/-!
# Keys of TOML

A key has one or more parts with dots between them.  A part is a row of letters, digits, dashes and
underscores, or a text on one line.
-/

namespace NewsScoring.Toml

/-- Whether a character may stand in a key without quotes. -/
def isBare (c : Char) : Bool :=
  c.isAlphanum || c == '-' || c == '_'

/-- The part of a key at the start of a text, and what is behind it. -/
def keyPart? (text : List Char) : Option (String × List Char) :=
  match text with
  | '"' :: rest => lineText? '"' true rest
  | '\'' :: rest => lineText? '\'' false rest
  | _ =>
    let part := text.takeWhile isBare
    if part.isEmpty then none else some (String.ofList part, text.dropWhile isBare)

/-- How many parts a key has at most. -/
def maxKeyParts : Nat := 79

/-- The parts of a key behind the reversed parts `done`, and what is behind it; at most `count`
parts are read. -/
def keyParts? (done : List String) : Nat → List Char → Option (List String × List Char)
  | 0, _ => none
  | count + 1, text =>
    match keyPart? (dropBlanks text) with
    | none => none
    | some (part, rest) =>
      match dropBlanks rest with
      | '.' :: rest => keyParts? (part :: done) count rest
      | rest => some ((part :: done).reverse, rest)

/-- The key at the start of a text, and what is behind it and the blanks around it. -/
def key? (text : List Char) : Option (List String × List Char) :=
  keyParts? [] maxKeyParts text

end NewsScoring.Toml
