/-!
# Formats of binary floating-point numbers

A number in one of the formats has a sign, an exponent and a fraction.  The exponent is shifted by
the bias of the format; its least value marks the numbers without a leading one, its largest one
infinity and NaN.  Every number of a smaller format is one of the double format (`widen`), and
`narrow?` goes back for the numbers that lose nothing by it.
-/

namespace NewsScoring.Binary

/-- The sizes in bits of the exponent and of the fraction. -/
structure Format where
  exponentBits : Nat
  fractionBits : Nat
  deriving DecidableEq, Repr

/-- The format of two bytes. -/
def half : Format := ⟨5, 10⟩

/-- The format of four bytes. -/
def single : Format := ⟨8, 23⟩

/-- The format of eight bytes. -/
def double : Format := ⟨11, 52⟩

/-- The parts of a number in a format. -/
structure Parts where
  /-- One for a negative number, and zero for another. -/
  sign : Nat
  exponent : Nat
  fraction : Nat
  deriving DecidableEq, Repr

namespace Format

/-- What is added to exponents. -/
def bias (format : Format) : Nat :=
  Nat.pow 2 (format.exponentBits - 1) - 1

/-- The exponent of infinity and NaN. -/
def top (format : Format) : Nat :=
  Nat.pow 2 format.exponentBits - 1

/-- The parts that bits stand for. -/
def split (format : Format) (bits : Nat) : Parts where
  sign := bits / Nat.pow 2 (format.exponentBits + format.fractionBits) % 2
  exponent := bits / Nat.pow 2 format.fractionBits % Nat.pow 2 format.exponentBits
  fraction := bits % Nat.pow 2 format.fractionBits

/-- The bits of a number with the given parts. -/
def join (format : Format) (parts : Parts) : Nat :=
  (parts.sign * Nat.pow 2 format.exponentBits + parts.exponent) * Nat.pow 2 format.fractionBits +
    parts.fraction

end Format

/-- The parts in the double format of a number of a smaller format.  A number without a leading one
gets one: its highest bit. -/
def widen (format : Format) (parts : Parts) : Parts :=
  let spare := double.fractionBits - format.fractionBits
  if parts.exponent == format.top then ⟨parts.sign, double.top, parts.fraction * Nat.pow 2 spare⟩
  else if parts.exponent != 0 then
    ⟨parts.sign, parts.exponent + double.bias - format.bias, parts.fraction * Nat.pow 2 spare⟩
  else if parts.fraction == 0 then ⟨parts.sign, 0, 0⟩
  else
    let highest := parts.fraction.log2
    ⟨parts.sign, highest + 1 + double.bias - format.bias - format.fractionBits,
      (parts.fraction - Nat.pow 2 highest) * Nat.pow 2 (double.fractionBits - highest)⟩

/-- The quotient by a power of two, if there is no remainder. -/
def shiftExactly? (n places : Nat) : Option Nat :=
  if n % Nat.pow 2 places == 0 then some (n / Nat.pow 2 places) else none

/-- The parts in a smaller format of a number of the double format, if the smaller format has the
number.  NaN becomes the one NaN without a sign whose fraction is half full. -/
def narrow? (format : Format) (parts : Parts) : Option Parts :=
  let spare := double.fractionBits - format.fractionBits
  let raised := parts.exponent + format.bias
  if parts.exponent == double.top then
    if parts.fraction == 0 then some ⟨parts.sign, format.top, 0⟩
    else some ⟨0, format.top, Nat.pow 2 (format.fractionBits - 1)⟩
  else if parts.exponent == 0 then
    if parts.fraction == 0 then some ⟨parts.sign, 0, 0⟩ else none
  else if double.bias < raised then
    if raised - double.bias < format.top then
      (shiftExactly? parts.fraction spare).map fun fraction =>
        ⟨parts.sign, raised - double.bias, fraction⟩
    else none
  else
    -- too small for an exponent: the leading one moves into the fraction
    let whole := Nat.pow 2 double.fractionBits + parts.fraction
    (shiftExactly? whole (spare + 1 + (double.bias - raised))).map fun fraction =>
      ⟨parts.sign, 0, fraction⟩

end NewsScoring.Binary
