import NewsScoring.Pattern.CharSet
import NewsScoring.Unicode.Alphabetic
import NewsScoring.Unicode.Emoji
import NewsScoring.Unicode.LetterCase
import NewsScoring.Unicode.Script

/-!
# Sets named by properties

A pattern names a set of characters by a property, by a general category or by a script, as in
`Alphabetic`, `Lu`, `Uppercase_Letter` or `Greek`, or by the kind of property and its value, as in
`gc=Lu` or `Script=Greek`.  Names are compared loosely: case, blanks, hyphens, underscores and an
`is` in front make no difference.
-/

namespace NewsScoring.Pattern

open Unicode (GeneralCategory Script)

/-- The small letters, digits and other marks of a name, by which names are told apart. -/
def letterForm (name : List Char) : List Char :=
  (name.filter fun c => c.toNat < 0x80 && c != ' ' && c != '_' && c != '-').map Char.toLower

/-- A name with only what tells names apart; an `is` is kept in front of a single `c`, which would
become the name of a category. -/
def looseName (name : List Char) : String :=
  if (name.take 2).map Char.toLower == ['i', 's'] then
    let rest := letterForm (name.drop 2)
    String.ofList (if rest == ['c'] then ['i', 's', 'c'] else rest)
  else String.ofList (letterForm name)

namespace CharClass

/-- The class of the characters of some general categories. -/
def ofCategories (categories : List GeneralCategory) : CharClass :=
  .flat (fun c => categories.contains (Unicode.generalCategory c))
    (2 * GeneralCategory.table.countRuns ((categories.map GeneralCategory.code).contains ·))

/-- The class of the characters of a script. -/
def ofScript (script : Script) : CharClass :=
  .flat (fun c => Unicode.script c == script) (2 * Script.table.countRuns (· == script.code))

/-- The class of the general categories of a name, or of one of the names of their own for all
characters, those that are assigned, and those of ASCII. -/
def ofCategoryName? (name : String) : Option CharClass :=
  match name with
  | "any" => some (.flat (fun _ => true) complementStates)
  | "assigned" => some (.ofCategories (GeneralCategory.all.filter (· != .unassigned)))
  | "ascii" => some (.flat (fun c => c.toNat < 0x80) 1)
  | name => (GeneralCategory.named? name).map ofCategories

/-- The class of the characters with a property. -/
def ofPropertyName? (name : String) : Option CharClass :=
  match name with
  | "alphabetic" | "alpha" => some (.flat Unicode.isAlphabetic 1460)
  | "uppercase" | "upper" => some (.flat Unicode.isUppercase 1310)
  | "lowercase" | "lower" => some (.flat Unicode.isLowercase 1350)
  | "emoji" => some (.flat Unicode.isEmoji 300)
  | "whitespace" | "wspace" | "space" => some (.flat Unicode.isWhiteSpace (shorthandStates 's'))
  | _ => none

/-- The class that a name stands for: of a property, of a general category or of a script. -/
def named? (name : String) : Option CharClass :=
  ofPropertyName? name <|> ofCategoryName? name <|> (Script.named? name).map ofScript

/-- The class of the characters for which a kind of property has a value. -/
def ofValue? (kind value : String) : Option CharClass :=
  match kind with
  | "gc" | "generalcategory" => ofCategoryName? value
  | "sc" | "script" => (Script.named? value).map ofScript
  | _ => none

end CharClass

/-- The texts before and behind the first place of a text where a mark stands. -/
def splitAtMark? (mark : List Char) : List Char → Option (List Char × List Char)
  | [] => none
  | c :: rest =>
    if mark.isPrefixOf (c :: rest) then some ([], (c :: rest).drop mark.length)
    else (splitAtMark? mark rest).map fun (before, behind) => (c :: before, behind)

/-- The class that the text between the braces behind a `p` names, and whether the characters
outside it are meant. -/
def propertyClass? (text : List Char) : Option (CharClass × Bool) :=
  match splitAtMark? ['!', '='] text with
  | some (kind, value) => (CharClass.ofValue? (looseName kind) (looseName value)).map (·, true)
  | none =>
    match splitAtMark? [':'] text <|> splitAtMark? ['='] text with
    | some (kind, value) => (CharClass.ofValue? (looseName kind) (looseName value)).map (·, false)
    | none => (CharClass.named? (looseName text)).map (·, false)

end NewsScoring.Pattern
