import NewsScoring.Cbor.Item
import NewsScoring.Proofs.Cbor.Head

/-!
# Reading back CBOR items

An item is read back from its bytes if its numbers and lengths fit into eight bytes, the code for
floating-point numbers keeps those in it, and it is not nested too deep (`Item.ofBytes?_toBytes`).
Whatever stands behind the bytes of an item is left for the next one, so that lists and maps are
read item by item.
-/

namespace NewsScoring.Cbor.Item

variable {α : Type} {code : FloatCode α}

/-- Whether an item has a form, and lists and maps are nested in it up to the given depth. -/
inductive Fits (code : FloatCode α) : Nat → Item α → Prop where
  | unsigned {depth n : Nat} (h : n < 0x10000000000000000) : Fits code depth (unsigned n)
  | negative {depth n : Nat} (h : n < 0x10000000000000000) : Fits code depth (negative n)
  | bytes {depth : Nat} {data : Bytes} (h : data.length < 0x10000000000000000) :
    Fits code depth (bytes data)
  | text {depth : Nat} {s : String} (h : (Bytes.ofText s).length < 0x10000000000000000) :
    Fits code depth (text s)
  | list {depth : Nat} {items : List (Item α)} (hlength : items.length < 0x10000000000000000)
    (hitems : ∀ item ∈ items, Fits code depth item) : Fits code (depth + 1) (list items)
  | map {depth : Nat} {entries : List (Item α × Item α)}
    (hlength : entries.length < 0x10000000000000000)
    (hkeys : ∀ entry ∈ entries, Fits code depth entry.1)
    (hvalues : ∀ entry ∈ entries, Fits code depth entry.2) : Fits code (depth + 1) (map entries)
  | boolean {depth : Nat} {value : Bool} : Fits code depth (boolean value)
  | null {depth : Nat} : Fits code depth null
  | float {depth : Nat} {x : α} (h : code.Keeps x) : Fits code depth (float x)

/-! ### Items one after the other -/

/-- A reader that reads back each item of a list reads back the list. -/
theorem many_listBytes {read : Reader (Item α)} {items : List (Item α)}
    (h : ∀ item ∈ items, ∀ rest, read (item.toBytes code ++ rest) = some (item, rest))
    (before : List (Item α)) (rest : Bytes) :
    many read before items.length (listBytes code items ++ rest) =
      some (before.reverse ++ items, rest) := by
  induction items generalizing before with
  | nil => rw [List.length_nil, listBytes, List.nil_append, many, List.append_nil]
  | cons item items ih =>
    rw [List.forall_mem_cons] at h
    rw [List.length_cons, listBytes, List.append_assoc, many, h.1]
    dsimp only
    rw [ih h.2, List.reverse_cons, List.append_assoc, List.singleton_append]

/-- The keys and values of a map, in turn. -/
def inTurn (entries : List (Item α × Item α)) : List (Item α) :=
  entries.flatMap fun (key, value) => [key, value]

theorem listBytes_inTurn (entries : List (Item α × Item α)) :
    listBytes code (inTurn entries) = entryBytes code entries := by
  induction entries with
  | nil => rfl
  | cons entry entries ih =>
    obtain ⟨key, value⟩ := entry
    show listBytes code (key :: value :: inTurn entries) = _
    rw [listBytes, listBytes, ih, entryBytes, List.append_assoc]

theorem length_inTurn (entries : List (Item α × Item α)) :
    (inTurn entries).length = 2 * entries.length := by
  induction entries with
  | nil => rfl
  | cons entry entries ih =>
    show (inTurn entries).length + 1 + 1 = 2 * (entries.length + 1)
    rw [ih]
    omega

theorem entries?_inTurn (entries : List (Item α × Item α)) :
    entries? (inTurn entries) = some entries := by
  induction entries with
  | nil => rfl
  | cons entry entries ih =>
    obtain ⟨key, value⟩ := entry
    show entries? (key :: value :: inTurn entries) = _
    rw [entries?, ih, Option.map_some]

/-! ### Items -/

/-- The reader of the items inside of others at a depth. -/
def inner? (code : FloatCode α) : Nat → Option (Reader (Item α))
  | 0 => none
  | depth + 1 => some (read? code depth)

/-- Behind a head that fits, the item of this head is read. -/
theorem read?_head (head : Head α) (h : head.Fits code) (depth : Nat) (rest : Bytes) :
    read? code depth (head.toBytes code ++ rest) = ofHead? code (inner? code depth) head rest := by
  cases depth <;> rw [read?, Head.ofBytes?_toBytes h] <;> rfl

theorem data?_append (isText : Bool) (data rest : Bytes) :
    data? code isText (some data.length) (data ++ rest) = some (data, rest) := by
  rw [data?, Bytes.take?_append]

/-- An item that fits is read back, and what stands behind it is left. -/
theorem read?_toBytes {depth : Nat} {item : Item α} (h : item.Fits code depth) (rest : Bytes) :
    read? code depth (item.toBytes code ++ rest) = some (item, rest) := by
  -- The induction is on why the item fits: it follows the item and counts the depth down.
  induction h generalizing rest with
  | unsigned h => exact read?_head (.unsigned _) h _ rest
  | negative h => exact read?_head (.negative _) h _ rest
  | bytes h =>
    rw [toBytes, List.append_assoc, read?_head (.bytes _) (Head.lt_of_mem_some h), ofHead?,
      data?_append]
    rfl
  | text h =>
    rw [toBytes, List.append_assoc, read?_head (.text _) (Head.lt_of_mem_some h), ofHead?,
      data?_append]
    show ((Bytes.text? (Bytes.ofText _)).bind fun s => some (text s, rest)) = _
    rw [Bytes.text?_ofText, Option.bind_some]
  | list hlength _ ih =>
    rw [toBytes, List.append_assoc, read?_head (.list _) (Head.lt_of_mem_some hlength), ofHead?,
      inner?]
    show ((many (read? code _) [] _ _).bind fun result => some (list result.1, result.2)) = _
    rw [many_listBytes ih, Option.bind_some, List.reverse_nil, List.nil_append]
  | map hlength _ _ ihkeys ihvalues =>
    rename_i depth entries _ _
    -- Keys and values are read as one list of items.
    have hitems : ∀ item ∈ inTurn entries, ∀ rest,
        read? code depth (item.toBytes code ++ rest) = some (item, rest) := by
      intro item hitem
      obtain ⟨entry, hentry, hmem⟩ := List.mem_flatMap.1 hitem
      obtain ⟨key, value⟩ := entry
      rcases List.mem_cons.1 hmem with rfl | hmem
      · exact ihkeys _ hentry
      · rw [List.mem_singleton.1 hmem]
        exact ihvalues _ hentry
    rw [toBytes, List.append_assoc, read?_head (.map _) (Head.lt_of_mem_some hlength), ofHead?,
      inner?, ← listBytes_inTurn]
    show ((many (read? code depth) [] (2 * entries.length) _).bind fun result =>
      (entries? result.1).bind fun entries => some (map entries, result.2)) = _
    rw [← length_inTurn, many_listBytes hitems, Option.bind_some, List.reverse_nil, List.nil_append,
      entries?_inTurn, Option.bind_some]
  | boolean => exact read?_head (.boolean _) trivial _ rest
  | null => exact read?_head .null trivial _ rest
  | float h => exact read?_head (.float _) h _ rest

/-- The bytes of an item that fits stand for it. -/
theorem ofBytes?_toBytes {item : Item α} (h : item.Fits code maxDepth) :
    ofBytes? code (item.toBytes code) = some item := by
  have hread := read?_toBytes h []
  rw [List.append_nil] at hread
  rw [ofBytes?, hread]

end NewsScoring.Cbor.Item
