/-!
# TOML values

The values of a TOML document.  Of a date or a time only the fact is kept that it is one, since no
setting has such a value.
-/

namespace NewsScoring.Toml

/-- A TOML value. -/
inductive Value where
  | text (s : String)
  | integer (n : Int)
  | float (x : Float)
  | boolean (value : Bool)
  | dateTime
  | array (items : List Value)
  | table (entries : List (String × Value))
  deriving Inhabited

namespace Value

/-- The text that a value is. -/
def text? : Value → Option String
  | text s => some s
  | _ => none

/-- The integer that a value is, if it is neither negative nor above a limit. -/
def natUpTo? (limit : Nat) : Value → Option Nat
  | integer n => if 0 ≤ n ∧ n ≤ limit then some n.toNat else none
  | _ => none

/-- The number that a value is; an integer stands for the nearest floating-point number. -/
def float? : Value → Option Float
  | float x => some x
  | integer n => some (Float.ofInt n)
  | _ => none

/-- The items that a value has. -/
def items? : Value → Option (List Value)
  | array items => some items
  | _ => none

/-- The fields of a record with the given names, each with its value if it has one.  The record is a
table with the names as keys, or an array of the values in the order of the names.  Other keys, and
values behind the last one, are passed over. -/
def fields? (names : List String) : Value → Option (List (Option Value))
  | table entries => some (names.map fun name => entries.lookup name)
  | dateTime => some (names.map fun _ => none)
  | array items => some ((List.range names.length).map (items[·]?))
  | _ => none

/-- What a reader makes of the value of a field; a field without a value has the given one. -/
def orElse {β : Type} (default : β) (read : Value → Option β) : Option Value → Option β
  | none => some default
  | some value => read value

/-- Whether a value is an array or a table without entries. -/
def isEmptyGroup : Value → Bool
  | array items => items.isEmpty
  | table entries => entries.isEmpty
  | _ => false

/-- The name of a choice without parts: a text, or the only key of a table whose value is empty. -/
def choice? : Value → Option String
  | text s => some s
  | table [(key, value)] => if isEmptyGroup value then some key else none
  | _ => none

end Value

end NewsScoring.Toml
