/-!
# Reading bits and prefix codes

The bits of packed data are numbered from the lowest of the first byte on.  A prefix code gives each
symbol a row of bits, so that no row starts another; it is known from the lengths of the rows alone,
since rows of one length are in the order of their symbols, and shorter ones come first.
-/

namespace NewsScoring.Gzip

/-- How far the packed data have been read, in bits, and what has come of them. -/
structure Progress where
  position : Nat
  output : Array UInt8

/-- A step of unpacking data, which may find that they are broken. -/
abbrev Unpacking := ReaderT (Array UInt8) (StateT Progress Option)

/-- The next bit. -/
def nextBit : Unpacking Nat := do
  let progress ← get
  match (← read)[progress.position / 8]? with
  | none => failure
  | some byte =>
    set { progress with position := progress.position + 1 }
    return byte.toNat / Nat.pow 2 (progress.position % 8) % 2

/-- The number of the next bits, the lowest first. -/
def nextNumber : Nat → Unpacking Nat
  | 0 => return 0
  | count + 1 => do
    let bit ← nextBit
    return bit + 2 * (← nextNumber count)

/-- Passes the bits up to the next whole byte. -/
def alignToByte : Unpacking Unit :=
  modify fun progress => { progress with position := (progress.position + 7) / 8 * 8 }

/-- Adds a byte to the output. -/
def emit (byte : UInt8) : Unpacking Unit :=
  modify fun progress => { progress with output := progress.output.push byte }

/-- The numbers of codes of each length from one on, and the symbols in the order of their codes. -/
structure PrefixCode where
  counts : List Nat
  symbols : Array Nat

namespace PrefixCode

/-- The length of the longest codes. -/
def maxLength : Nat := 15

/-- The symbols whose codes have the given length. -/
def symbolsOfLength (lengths : List Nat) (length : Nat) : List Nat :=
  (lengths.zipIdx.filter (·.1 == length)).map Prod.snd

/-- The code in which the symbols have codes of the given lengths; symbols of length zero have
none. -/
def ofLengths (lengths : List Nat) : PrefixCode :=
  let groups := (List.range maxLength).map fun i => symbolsOfLength lengths (i + 1)
  ⟨groups.map List.length, groups.flatten.toArray⟩

/-- The symbol of the next code, where `code` has been read, `first` is the first code of that
length and `index` the index of its symbol. -/
def symbolFrom (symbols : Array Nat) : List Nat → Nat → Nat → Nat → Unpacking Nat
  | [], _, _, _ => failure
  | count :: counts, code, first, index => do
    let code := 2 * code + (← nextBit)
    if code < 2 * first + count then
      match symbols[index + (code - 2 * first)]? with
      | some symbol => return symbol
      | none => failure
    else symbolFrom symbols counts code (2 * first + count) (index + count)

/-- The symbol of the next code. -/
def nextSymbol (code : PrefixCode) : Unpacking Nat :=
  symbolFrom code.symbols code.counts 0 0 0

end PrefixCode

end NewsScoring.Gzip
