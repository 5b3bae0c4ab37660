import NewsScoring.Binary.Format
import NewsScoring.Bytes

/-!
# Heads of CBOR items

Every CBOR item starts with a head.  Its first byte has a major type in the upper three bits and a
small number in the lower five; a number from 24 on has its value in the bytes behind, or stands for
a length that is left open.  `Head.toBytes` writes each number in the fewest bytes, and
`Head.ofBytes?` reads it in any width.

Floating-point numbers are of a type `α`.  A `FloatCode` gives each the shortest of three formats
that keeps it.
-/

namespace NewsScoring.Cbor

/-- How the numbers of a type are stored in floating-point formats. -/
structure FloatCode (α : Type) where
  /-- The format and the bits in which a number is stored. -/
  write : α → Binary.Format × Nat
  /-- The number that the bits of a format stand for. -/
  read : Binary.Format → Nat → α

/-- The bits of the shortest format that keeps a double number, given by its bits. -/
def shortestForm (bits : Nat) : Binary.Format × Nat :=
  let parts := Binary.double.split bits
  match Binary.narrow? Binary.half parts, Binary.narrow? Binary.single parts with
  | some parts, _ => (Binary.half, Binary.half.join parts)
  | none, some parts => (Binary.single, Binary.single.join parts)
  | none, none => (Binary.double, bits)

/-- Binary floating-point numbers in the shortest of their formats. -/
def FloatCode.shortest : FloatCode Float where
  write x := shortestForm x.toBits.toNat
  read format bits :=
    if format = Binary.double then Float.ofBits bits.toUInt64
    else Float.ofBits (Binary.double.join (Binary.widen format (format.split bits))).toUInt64

/-- The head of an item.  A length `none` is left open. -/
inductive Head (α : Type) where
  | unsigned (n : Nat)
  /-- The number `-1 - n`. -/
  | negative (n : Nat)
  | bytes (length : Option Nat)
  | text (length : Option Nat)
  | list (length : Option Nat)
  | map (length : Option Nat)
  | tag
  | boolean (value : Bool)
  | null
  | float (value : α)
  /-- The end of an item with an open length. -/
  | stop
  deriving Repr

namespace Head

variable {α : Type}

/-! ### Writing -/

/-- The first byte with a major type and a small number. -/
def firstByte (major small : Nat) : UInt8 :=
  UInt8.ofNat (32 * major + small)

/-- The bytes of a number with its major type. -/
def numberBytes (major n : Nat) : Bytes :=
  if n < 24 then [firstByte major n]
  else if n < 0x100 then firstByte major 24 :: Bytes.ofNat 1 n
  else if n < 0x10000 then firstByte major 25 :: Bytes.ofNat 2 n
  else if n < 0x100000000 then firstByte major 26 :: Bytes.ofNat 4 n
  else firstByte major 27 :: Bytes.ofNat 8 n

/-- The bytes of a length with its major type. -/
def lengthBytes (major : Nat) : Option Nat → Bytes
  | some n => numberBytes major n
  | none => [firstByte major 31]

/-- The bytes of a floating-point number in a format. -/
def floatBytes (form : Binary.Format × Nat) : Bytes :=
  if form.1 = Binary.half then firstByte 7 25 :: Bytes.ofNat 2 form.2
  else if form.1 = Binary.single then firstByte 7 26 :: Bytes.ofNat 4 form.2
  else firstByte 7 27 :: Bytes.ofNat 8 form.2

/-- The bytes of a head; all tags are written as the first one. -/
def toBytes (code : FloatCode α) : Head α → Bytes
  | unsigned n => numberBytes 0 n
  | negative n => numberBytes 1 n
  | bytes length => lengthBytes 2 length
  | text length => lengthBytes 3 length
  | list length => lengthBytes 4 length
  | map length => lengthBytes 5 length
  | tag => numberBytes 6 0
  | boolean false => [firstByte 7 20]
  | boolean true => [firstByte 7 21]
  | null => [firstByte 7 22]
  | float x => floatBytes (code.write x)
  | stop => [firstByte 7 31]

/-! ### Reading -/

/-- The number of the given count of bytes, and the bytes behind it. -/
def wideNumber? (count : Nat) (bytes : Bytes) : Option (Nat × Bytes) :=
  (Bytes.take? count bytes).map fun (number, rest) => (number.toNat, rest)

/-- The number that belongs to the small number of a first byte, and the bytes behind it. -/
def number? (small : Nat) (bytes : Bytes) : Option (Nat × Bytes) :=
  if small < 24 then some (small, bytes)
  else match small with
    | 24 => wideNumber? 1 bytes
    | 25 => wideNumber? 2 bytes
    | 26 => wideNumber? 4 bytes
    | 27 => wideNumber? 8 bytes
    | _ => none

/-- The length that belongs to the small number of a first byte, and the bytes behind it. -/
def length? (small : Nat) (bytes : Bytes) : Option (Option Nat × Bytes) :=
  if small = 31 then some (none, bytes)
  else (number? small bytes).map fun (n, rest) => (some n, rest)

/-- The floating-point number of a format at the start of bytes, as a head. -/
def float? (code : FloatCode α) (format : Binary.Format) (count : Nat) (bytes : Bytes) :
    Option (Head α × Bytes) :=
  (wideNumber? count bytes).map fun (bits, rest) => (float (code.read format bits), rest)

/-- The head of the last major type that belongs to the small number of a first byte. -/
def simple? (code : FloatCode α) (small : Nat) (bytes : Bytes) : Option (Head α × Bytes) :=
  match small with
  | 20 => some (boolean false, bytes)
  | 21 => some (boolean true, bytes)
  | 22 => some (null, bytes)
  | 23 => some (null, bytes)
  | 25 => float? code Binary.half 2 bytes
  | 26 => float? code Binary.single 4 bytes
  | 27 => float? code Binary.double 8 bytes
  | 31 => some (stop, bytes)
  | _ => none

/-- The head with the given major type and small number, and the bytes behind it. -/
def ofMajor? (code : FloatCode α) (major small : Nat) (bytes : Bytes) : Option (Head α × Bytes) :=
  match major with
  | 0 => (number? small bytes).map fun (n, rest) => (unsigned n, rest)
  | 1 => (number? small bytes).map fun (n, rest) => (negative n, rest)
  | 2 => (length? small bytes).map fun (length, rest) => (.bytes length, rest)
  | 3 => (length? small bytes).map fun (length, rest) => (text length, rest)
  | 4 => (length? small bytes).map fun (length, rest) => (list length, rest)
  | 5 => (length? small bytes).map fun (length, rest) => (map length, rest)
  | 6 => (number? small bytes).map fun (_, rest) => (tag, rest)
  | _ => simple? code small bytes

/-- The head at the start of bytes, and the bytes behind it. -/
def ofBytes? (code : FloatCode α) : Bytes → Option (Head α × Bytes)
  | [] => none
  | byte :: rest => ofMajor? code (byte.toNat / 32) (byte.toNat % 32) rest

end Head

end NewsScoring.Cbor
