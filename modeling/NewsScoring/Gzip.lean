import NewsScoring.Bytes
import NewsScoring.Gzip.PrefixCode

/-!
# Compressed files

`Gzip.unpack?` gives the bytes of the first member of a gzip file.  The packed data come in blocks:
of bytes as they are, or of codes for single bytes and for the repetition of earlier ones, where the
code is fixed or stands at the start of the block.  Length and checksum at the end have to fit.
-/

namespace NewsScoring.Gzip

/-! ### Blocks -/

/-- The shortest length of each code for a repetition, and the number of bits that are added to
it. -/
def lengthTable : Array (Nat × Nat) := #[
  (3, 0), (4, 0), (5, 0), (6, 0), (7, 0), (8, 0), (9, 0), (10, 0), (11, 1), (13, 1), (15, 1),
  (17, 1), (19, 2), (23, 2), (27, 2), (31, 2), (35, 3), (43, 3), (51, 3), (59, 3), (67, 4), (83, 4),
  (99, 4), (115, 4), (131, 5), (163, 5), (195, 5), (227, 5), (258, 0)]

/-- The shortest distance of each code for a distance, and the number of bits that are added to
it. -/
def distanceTable : Array (Nat × Nat) := #[
  (1, 0), (2, 0), (3, 0), (4, 0), (5, 1), (7, 1), (9, 2), (13, 2), (17, 3), (25, 3), (33, 4),
  (49, 4), (65, 5), (97, 5), (129, 6), (193, 6), (257, 7), (385, 7), (513, 8), (769, 8), (1025, 9),
  (1537, 9), (2049, 10), (3073, 10), (4097, 11), (6145, 11), (8193, 12), (12289, 12), (16385, 13),
  (24577, 13)]

/-- The number that an entry of a table and the bits behind its code stand for. -/
def nextSize (table : Array (Nat × Nat)) (symbol : Nat) : Unpacking Nat := do
  match table[symbol]? with
  | some (least, bits) => return least + (← nextNumber bits)
  | none => failure

/-- Repeats bytes of the output from the given distance on. -/
def repeatBytes (distance : Nat) : Nat → Unpacking Unit
  | 0 => return
  | length + 1 => do
    let output := (← get).output
    if output.size < distance then failure
    match output[output.size - distance]? with
    | some byte => emit byte
    | none => failure
    repeatBytes distance length

/-- The rest of a block of codes; `fuel` bounds the number of codes. -/
def codedBlock (literals distances : PrefixCode) : Nat → Unpacking Unit
  | 0 => failure
  | fuel + 1 => do
    let symbol ← literals.nextSymbol
    if symbol < 256 then
      emit (UInt8.ofNat symbol)
      codedBlock literals distances fuel
    else if symbol == 256 then return  -- the end of the block
    else
      let length ← nextSize lengthTable (symbol - 257)
      let distance ← nextSize distanceTable (← distances.nextSymbol)
      repeatBytes distance length
      codedBlock literals distances fuel

/-- The given number of bytes as they are. -/
def storedBytes : Nat → Unpacking Unit
  | 0 => return
  | length + 1 => do
    emit (UInt8.ofNat (← nextNumber 8))
    storedBytes length

/-- A block of bytes as they are, with their number in front, once plain and once with all bits
turned. -/
def storedBlock : Unpacking Unit := do
  alignToByte
  let length ← nextNumber 16
  let turned ← nextNumber 16
  if length + turned != 0xffff then failure
  storedBytes length

/-- The fixed code for bytes and repetitions. -/
def fixedLiterals : PrefixCode :=
  .ofLengths (List.replicate 144 8 ++ List.replicate 112 9 ++ List.replicate 24 7 ++
    List.replicate 8 8)

/-- The fixed code for distances. -/
def fixedDistances : PrefixCode :=
  .ofLengths (List.replicate 30 5)

/-- The order in which the lengths of the codes for lengths are given. -/
def lengthOrder : List Nat :=
  [16, 17, 18, 0, 8, 7, 9, 6, 10, 5, 11, 4, 12, 3, 13, 2, 14, 1, 15]

/-- The given number of lengths of three bits each. -/
def shortLengths : Nat → Unpacking (List Nat)
  | 0 => return []
  | count + 1 => do
    let length ← nextNumber 3
    return length :: (← shortLengths count)

/-- Lengths of codes, added to the reversed ones in `found` until there are `total`; `fuel` bounds
the number of steps. -/
def codeLengths (code : PrefixCode) (total : Nat) (found : List Nat) : Nat → Unpacking (List Nat)
  | 0 => failure
  | fuel + 1 => do
    if total < found.length then failure
    if found.length == total then return found.reverse
    let add (length count : Nat) := List.replicate count length ++ found
    match ← code.nextSymbol, found with
    | 16, last :: _ => codeLengths code total (add last (3 + (← nextNumber 2))) fuel
    | 16, [] => failure
    | 17, _ => codeLengths code total (add 0 (3 + (← nextNumber 3))) fuel
    | 18, _ => codeLengths code total (add 0 (11 + (← nextNumber 7))) fuel
    | length, _ => codeLengths code total (add length 1) fuel

/-- The codes at the start of a block that has its own. -/
def ownCodes : Unpacking (PrefixCode × PrefixCode) := do
  let literalCount := (← nextNumber 5) + 257
  let distanceCount := (← nextNumber 5) + 1
  let given := lengthOrder.zip (← shortLengths ((← nextNumber 4) + 4))
  let code := PrefixCode.ofLengths
    ((List.range lengthOrder.length).map fun symbol => (given.lookup symbol).getD 0)
  let total := literalCount + distanceCount
  let lengths ← codeLengths code total [] (total + 1)
  return (.ofLengths (lengths.take literalCount), .ofLengths (lengths.drop literalCount))

/-- The blocks up to the last one; `fuel` bounds the number of blocks and of codes. -/
def blocks : Nat → Unpacking Unit
  | 0 => failure
  | fuel + 1 => do
    let isLast ← nextBit
    match ← nextNumber 2 with
    | 0 => storedBlock
    | 1 => codedBlock fixedLiterals fixedDistances fuel
    | 2 =>
      let (literals, distances) ← ownCodes
      codedBlock literals distances fuel
    | _ => failure
    if isLast == 0 then blocks fuel

/-! ### Members -/

/-- The bytes behind a text that ends with a zero. -/
def afterZero? : Bytes → Option Bytes
  | [] => none
  | byte :: rest => if byte == 0 then some rest else afterZero? rest

/-- What comes of bytes if a flag is set, and the bytes themselves if not. -/
def ifFlag (flags flag : Nat) (skip : Bytes → Option Bytes) (bytes : Bytes) : Option Bytes :=
  if flags / flag % 2 == 1 then skip bytes else some bytes

/-- The bytes behind an extra field with its length in front. -/
def afterExtra? : Bytes → Option Bytes
  | low :: high :: rest => (Bytes.take? (low.toNat + 256 * high.toNat) rest).map Prod.snd
  | _ => none

/-- The bytes behind the header of a member. -/
def afterHeader? : Bytes → Option Bytes
  | 0x1f :: 0x8b :: 8 :: flags :: _ :: _ :: _ :: _ :: _ :: _ :: rest => do
    let flags := flags.toNat
    let rest ← ifFlag flags 4 afterExtra? rest
    let rest ← ifFlag flags 8 afterZero? rest
    let rest ← ifFlag flags 16 afterZero? rest
    ifFlag flags 2 (fun rest => (Bytes.take? 2 rest).map Prod.snd) rest
  | _ => none

/-- A checksum after one more bit. -/
def checksumBit (sum : UInt32) : UInt32 :=
  if sum &&& 1 == 1 then (sum >>> 1) ^^^ 0xedb88320 else sum >>> 1

/-- A checksum after one more byte. -/
def checksumByte (sum : UInt32) (byte : UInt8) : UInt32 :=
  (List.range 8).foldl (fun sum _ => checksumBit sum) (sum ^^^ byte.toUInt32)

/-- The checksum of bytes. -/
def checksum (bytes : Array UInt8) : UInt32 :=
  bytes.foldl checksumByte 0xffffffff ^^^ 0xffffffff

/-- The blocks of a member with what follows them. -/
def member (fuel : Nat) : Unpacking Unit := do
  blocks fuel
  alignToByte
  let sum ← nextNumber 32
  let size ← nextNumber 32
  let output := (← get).output
  if (checksum output).toNat != sum || output.size % 0x100000000 != size then failure

/-- The bytes that a compressed file unpacks to.  Each block and each code takes a bit at least. -/
def unpack? (bytes : Bytes) : Option Bytes := do
  let packed := (← afterHeader? bytes).toArray
  let (_, progress) ← ((member (8 * packed.size + 1)).run packed).run ⟨0, #[]⟩
  return progress.output.toList

end NewsScoring.Gzip
