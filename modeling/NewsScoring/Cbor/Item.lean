import NewsScoring.Cbor.Head

/-!
# CBOR items

An `Item` is a number, a text, bytes, a list or a map of items.  `toBytes` writes it with all
lengths given, and `ofBytes?` reads it: lengths may be left open, texts and bytes may then come in
chunks, and tags are passed over.  Lists, maps and tags may be nested up to a depth of 127.
-/

namespace NewsScoring.Cbor

/-- A CBOR item, with floating-point numbers of type `α`. -/
inductive Item (α : Type) where
  | unsigned (n : Nat)
  /-- The number `-1 - n`. -/
  | negative (n : Nat)
  | bytes (data : Bytes)
  | text (s : String)
  | list (items : List (Item α))
  | map (entries : List (Item α × Item α))
  | boolean (value : Bool)
  | null
  | float (value : α)

namespace Item

variable {α : Type}

/-! ### Writing -/

mutual

/-- The bytes of an item. -/
def toBytes (code : FloatCode α) : Item α → Bytes
  | unsigned n => (Head.unsigned n : Head α).toBytes code
  | negative n => (Head.negative n : Head α).toBytes code
  | bytes data => (Head.bytes (some data.length) : Head α).toBytes code ++ data
  | text s =>
    let data := Bytes.ofText s
    (Head.text (some data.length) : Head α).toBytes code ++ data
  | list items => (Head.list (some items.length) : Head α).toBytes code ++ listBytes code items
  | map entries => (Head.map (some entries.length) : Head α).toBytes code ++ entryBytes code entries
  | boolean value => (Head.boolean value : Head α).toBytes code
  | null => (Head.null : Head α).toBytes code
  | float x => (Head.float x).toBytes code

/-- The bytes of the items of a list. -/
def listBytes (code : FloatCode α) : List (Item α) → Bytes
  | [] => []
  | item :: rest => toBytes code item ++ listBytes code rest

/-- The bytes of the entries of a map. -/
def entryBytes (code : FloatCode α) : List (Item α × Item α) → Bytes
  | [] => []
  | (key, value) :: rest => toBytes code key ++ toBytes code value ++ entryBytes code rest

end

/-! ### Reading -/

/-- A reader of values at the start of bytes; it gives the bytes behind the value. -/
abbrev Reader (β : Type) := Bytes → Option (β × Bytes)

/-- The given number of values one after the other, behind the reversed values `done`. -/
def many {β : Type} (read : Reader β) (done : List β) : Nat → Reader (List β)
  | 0, input => some (done.reverse, input)
  | count + 1, input =>
    match read input with
    | some (value, rest) => many read (value :: done) count rest
    | none => none

/-- Values one after the other up to a stop, behind the reversed values `done`; at most `fuel` of
them. -/
def manyOpen {β : Type} (read : Reader β) (done : List β) : Nat → Reader (List β)
  | 0, _ => none
  | fuel + 1, input =>
    if input.head? == some 0xff then some (done.reverse, input.tail)
    else match read input with
      | some (value, rest) => manyOpen read (value :: done) fuel rest
      | none => none

/-- As many values as a length says. -/
def values {β : Type} (read : Reader β) : Option Nat → Reader (List β)
  | some count, input => many read [] count input
  | none, input => manyOpen read [] (input.length + 1) input

/-- One of the chunks that make up a text or bytes with an open length. -/
def chunk? (code : FloatCode α) (isText : Bool) (input : Bytes) : Option (Bytes × Bytes) :=
  match Head.ofBytes? code input, isText with
  | some (.text (some length), rest), true => Bytes.take? length rest
  | some (.bytes (some length), rest), false => Bytes.take? length rest
  | _, _ => none

/-- The bytes of a text, or other bytes, of the given length. -/
def data? (code : FloatCode α) (isText : Bool) : Option Nat → Reader Bytes
  | some length, input => Bytes.take? length input
  | none, input =>
    (values (chunk? code isText) none input).map fun (chunks, rest) => (chunks.flatten, rest)

/-- The keys and values that items in turn stand for, if there is a value for each key. -/
def entries? : List (Item α) → Option (List (Item α × Item α))
  | [] => some []
  | [_] => none
  | key :: value :: rest => (entries? rest).map ((key, value) :: ·)

/-- The item with the given head.  The items inside are read by `inner`; there is none where the
depth is used up. -/
def ofHead? (code : FloatCode α) (inner : Option (Reader (Item α))) :
    Head α → Reader (Item α)
  | .unsigned n, rest => some (unsigned n, rest)
  | .negative n, rest => some (negative n, rest)
  | .bytes length, rest => do
    let (data, rest) ← data? code false length rest
    return (bytes data, rest)
  | .text length, rest => do
    let (data, rest) ← data? code true length rest
    return (text (← Bytes.text? data), rest)
  | .list length, rest => do
    let (items, rest) ← values (← inner) length rest
    return (list items, rest)
  | .map length, rest => do
    -- a map of `n` entries has `2 * n` items behind it, keys and values in turn
    let (items, rest) ← values (← inner) (length.map (2 * ·)) rest
    return (map (← entries? items), rest)
  | .tag, rest => do (← inner) rest
  | .boolean value, rest => some (boolean value, rest)
  | .null, rest => some (null, rest)
  | .float x, rest => some (float x, rest)
  | .stop, _ => none

/-- The item at the start of bytes, nested up to the given depth. -/
def read? (code : FloatCode α) : Nat → Reader (Item α)
  | 0, input => do
    let (head, rest) ← Head.ofBytes? code input
    ofHead? code none head rest
  | depth + 1, input => do
    let (head, rest) ← Head.ofBytes? code input
    ofHead? code (some (read? code depth)) head rest

/-- How deep lists, maps and tags may be nested. -/
def maxDepth : Nat := 127

/-- The item that bytes stand for. -/
def ofBytes? (code : FloatCode α) (input : Bytes) : Option (Item α) :=
  match read? code maxDepth input with
  | some (item, []) => some item
  | _ => none

end Item

end NewsScoring.Cbor
