import NewsScoring.Decimal.Shortest

/-!
# Writing and reading numbers

`render` writes a floating-point number by the fewest digits that read back, in a `Style`: the range
of sizes that are written without an exponent, and whether a whole number keeps a fraction.  Three
styles are in use: `plain` in messages, `exact` where values are shown for inspection, and `json` in
reports.  `nearest` is the floating-point number nearest to a decimal.
-/

namespace NewsScoring.Decimal

/-- How the digits of a number are set out. -/
structure Style where
  /-- Whether a number with the decimal point at this position is written without an exponent; the
  position counts from the first digit. -/
  isPositional : Int → Bool
  /-- Whether a whole number is written with the fraction `.0`. -/
  keepsPoint : Bool

/-- The style of messages: never an exponent, and no fraction for whole numbers. -/
def plain : Style := ⟨fun _ => true, false⟩

/-- The style of values shown for inspection: an exponent from `10 ^ 16` on and below `10 ^ -4`. -/
def exact : Style := ⟨fun point => -4 < point && point ≤ 16, true⟩

/-- The style of reports: an exponent from `10 ^ 16` on and below `10 ^ -5`. -/
def json : Style := ⟨fun point => -5 < point && point ≤ 16, true⟩

/-- The decimal digits of a number. -/
def digitsOf (n : Nat) : List Char :=
  n.repr.toList

/-- A number without an exponent: `digits` with the decimal point at position `point`. -/
def positional (style : Style) (digits : List Char) (point : Int) : List Char :=
  let ending := if style.keepsPoint then ".0".toList else []
  if point ≤ 0 then
    '0' :: '.' :: (List.replicate (-point).toNat '0' ++ digits)
  else if digits.length ≤ point.toNat then
    digits ++ List.replicate (point.toNat - digits.length) '0' ++ ending
  else digits.take point.toNat ++ '.' :: digits.drop point.toNat

/-- A number with an exponent: one digit before the decimal point. -/
def scientific (digits : List Char) (point : Int) : List Char :=
  let tail := if digits.length ≤ 1 then [] else '.' :: digits.drop 1
  digits.take 1 ++ tail ++ 'e' :: (toString (point - 1)).toList

/-- The text of a finite positive number. -/
def renderPositive (style : Style) (bits : Nat) : List Char :=
  let x := shortest (Binary.ofBits bits)
  let digits := digitsOf x.digits
  let point := x.exponent + digits.length
  if style.isPositional point then positional style digits point else scientific digits point

/-- The text of a number in a style. -/
def render (style : Style) (x : Float) : String :=
  if x.isNaN then "NaN"
  else
    let bits := x.toBits.toNat % 0x8000000000000000
    let magnitude :=
      if bits == 0 then (if style.keepsPoint then "0.0" else "0")
      else if !x.isFinite then "inf"
      else String.ofList (renderPositive style bits)
    (if x.toBits.toNat < 0x8000000000000000 then "" else "-") ++ magnitude

/-- The number nearest to `digits · 10 ^ exponent`; infinity if all are too small.  Decimals that
are far too large or too small are told by their length, so that no power of ten of that size is
ever computed. -/
def nearest (digits : Nat) (exponent : Int) : Float :=
  let size := exponent + digits.repr.length
  if digits == 0 || size < -400 then 0.0
  else if 400 < size then 1.0 / 0.0
  else Float.ofScientific digits (exponent < 0) exponent.natAbs

end NewsScoring.Decimal
