import NewsScoring.Json.Token

/-!
# JSON values

`Value.ofText?` reads the value that a JSON text denotes.  Strings and keys are kept in parts: a
reader decodes those that it keeps, and those that it skips need not be well-formed.  A number is
its text, since nothing here computes with one.
-/

namespace NewsScoring.Json

/-- A JSON value. -/
inductive Value where
  | null
  | boolean (value : Bool)
  | number (text : List Char)
  | string (parts : List StringPart)
  | array (items : List Value)
  | object (members : List (List StringPart × Value))

mutual

/-- The value at the start of the tokens, and the tokens behind it. -/
def readValue? : Nat → List Token → Option (Value × List Token)
  | 0, _ => none
  | _ + 1, .null :: rest => some (.null, rest)
  | _ + 1, .boolean value :: rest => some (.boolean value, rest)
  | _ + 1, .number text :: rest => some (.number text, rest)
  | _ + 1, .string parts :: rest => some (.string parts, rest)
  | fuel + 1, .mark c :: rest =>
    if c = '[' then
      match rest with
      | .mark ']' :: rest => some (.array [], rest)
      | _ => (readItems? fuel [] rest).map fun (items, rest) => (.array items, rest)
    else if c = '\x7b' then
      match rest with
      | .mark '\x7d' :: rest => some (.object [], rest)
      | _ => (readMembers? fuel [] rest).map fun (members, rest) => (.object members, rest)
    else none
  | _ + 1, [] => none

/-- The items of an array from the next one on, after those of `found`, last first. -/
def readItems? : Nat → List Value → List Token → Option (List Value × List Token)
  | 0, _, _ => none
  | fuel + 1, found, tokens =>
    match readValue? fuel tokens with
    | some (item, .mark ',' :: rest) => readItems? fuel (item :: found) rest
    | some (item, .mark ']' :: rest) => some ((item :: found).reverse, rest)
    | _ => none

/-- The members of an object from the next one on, after those of `found`, last first. -/
def readMembers? : Nat → List (List StringPart × Value) → List Token →
    Option (List (List StringPart × Value) × List Token)
  | fuel + 1, found, .string key :: .mark ':' :: rest =>
    match readValue? fuel rest with
    | some (value, .mark ',' :: rest) => readMembers? fuel ((key, value) :: found) rest
    | some (value, .mark '\x7d' :: rest) => some (((key, value) :: found).reverse, rest)
    | _ => none
  | _, _, _ => none

end

/-- The value that a text denotes.  Each level of recursion takes a token, which bounds their
number. -/
def Value.ofText? (text : List Char) : Option Value := do
  let tokens ← tokens? text
  match ← readValue? (tokens.length + 1) tokens with
  | (value, []) => some value
  | _ => none

/-- The characters of a string. -/
def Value.characters? : Value → Option (List Char)
  | .string parts => Json.characters? parts
  | _ => none

/-- The text of a string. -/
def Value.text? (value : Value) : Option String :=
  value.characters?.map String.ofList

end NewsScoring.Json
