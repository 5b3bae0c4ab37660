/-!
# Bytes

A file is a list of bytes.  Text is stored as UTF-8: `text? (ofText s) = some s`, and bytes that are
not UTF-8 have no text.
-/

namespace NewsScoring

/-- A sequence of bytes. -/
abbrev Bytes := List UInt8

namespace Bytes

/-- The bytes of a text. -/
def ofText (text : String) : Bytes :=
  text.toUTF8.data.toList

/-- The text that bytes stand for, if they are UTF-8. -/
def text? (bytes : Bytes) : Option String :=
  String.fromUTF8? ⟨bytes.toArray⟩

/-- The text stored as bytes is read back. -/
theorem text?_ofText (text : String) : text? (ofText text) = some text := by
  unfold text? String.fromUTF8?
  rw [dif_pos]
  rfl

/-- The first `count` bytes, which are put in front of the reversed bytes `taken`, and the bytes
behind them. -/
def takeFrom (taken : Bytes) : Nat → Bytes → Option (Bytes × Bytes)
  | 0, bytes => some (taken.reverse, bytes)
  | _ + 1, [] => none
  | count + 1, byte :: rest => takeFrom (byte :: taken) count rest

/-- The first `count` bytes and those behind them, if there are so many. -/
def take? (count : Nat) (bytes : Bytes) : Option (Bytes × Bytes) :=
  takeFrom [] count bytes

/-- The number that bytes stand for, the most significant byte first. -/
def toNat (bytes : Bytes) : Nat :=
  bytes.foldl (fun n byte => 256 * n + byte.toNat) 0

/-- The last `count` bytes of a number, the most significant byte first. -/
def ofNat : Nat → Nat → Bytes
  | 0, _ => []
  | count + 1, n => ofNat count (n / 256) ++ [UInt8.ofNat n]

end Bytes

end NewsScoring
