import NewsScoring.Cbor.Item

/-!
# Records as CBOR items

A record is a map from the names of its fields, or a list of exactly its fields in order.  In a map
the fields may come in any order, a key may also be given as bytes or as the index of the field, and
entries under other names are passed over.  Each field is there exactly once.
-/

namespace NewsScoring.Cbor.Item

variable {α : Type}

/-- The map from names to the values of fields. -/
def ofFields (fields : List (String × Item α)) : Item α :=
  map (fields.map fun (name, value) => (text name, value))

/-- The index of the field that a key names.  A key that names none gives an index behind them; what
is neither a name nor an index is no key. -/
def fieldIndex? (names : List String) : Item α → Option Nat
  | unsigned n => some n
  | text name => some (names.idxOf name)
  | bytes name => some (names.findIdx (Bytes.ofText · == name))
  | _ => none

/-- The only entry with an index. -/
def only? (index : Nat) (entries : List (Nat × Item α)) : Option (Item α) :=
  match entries.filter (·.1 == index) with
  | [entry] => some entry.2
  | _ => none

/-- The fields of a record with the given names, in the order of the names. -/
def fields? (names : List String) : Item α → Option (List (Item α))
  | list items => if items.length == names.length then some items else none
  | map entries => do
    let entries ← entries.mapM fun (key, value) => do return (← fieldIndex? names key, value)
    (List.range names.length).mapM (only? · entries)
  | _ => none

/-! ### Values of fields -/

/-- A number that is not negative. -/
def nat? : Item α → Option Nat
  | unsigned n => some n
  | _ => none

/-- A text, or bytes that are the UTF-8 of one. -/
def text? : Item α → Option String
  | text s => some s
  | bytes data => data.text?
  | _ => none

/-- The items of a list. -/
def items? : Item α → Option (List (Item α))
  | list items => some items
  | _ => none

end NewsScoring.Cbor.Item
