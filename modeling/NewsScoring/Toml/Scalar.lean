import NewsScoring.Decimal.Notation
import NewsScoring.Instant.Calendar
import NewsScoring.Text.Digits
import NewsScoring.Toml.Value

/-!
# Words of TOML

A value that is not in quotes or brackets is a word: a boolean, a number, a date or a time.  In
numbers digits may be parted by single underscores.  An integer takes 64 bits; a floating-point
number has a fraction or an exponent, and is refused if it is too large, unless it has a minus sign.
-/

namespace NewsScoring.Toml

/-! ### Numbers -/

/-- Digits without the underscores between them; each stands between two digits. -/
def withoutUnderscores? : List Char → Option (List Char)
  | [] => some []
  | '_' :: _ => none
  | c :: '_' :: d :: rest =>
    if d == '_' then none else (withoutUnderscores? (d :: rest)).map (c :: ·)
  | [_, '_'] => none
  | c :: rest => (withoutUnderscores? rest).map (c :: ·)

/-- The digits of a base that are written in a row, if there are any. -/
def digits? (base : Nat) (word : List Char) : Option (List Char) := do
  let digits ← withoutUnderscores? word
  if digits.isEmpty || !digits.all fun c => (Text.digitValue? base c).isSome then none
  return digits

/-- The digits of a whole number: one zero, or digits that do not start with zero. -/
def wholeDigits? (word : List Char) : Option (List Char) :=
  if word.head? == some '0' && word.length != 1 then none else digits? 10 word

/-- Whether a word has a minus sign, and the word without its sign. -/
def splitSign : List Char → Bool × List Char
  | '-' :: rest => (true, rest)
  | '+' :: rest => (false, rest)
  | word => (false, word)

/-- The integer with the given sign and size. -/
def signed (isNegative : Bool) (size : Nat) : Int :=
  if isNegative then -(size : Int) else size

/-- The integer of a word in the digits of a base. -/
def integerIn? (base : Nat) (word : List Char) : Option Int := do
  return (← Text.number? base (← digits? base word) : Nat)

/-- The integer of a decimal word. -/
def decimalInteger? (word : List Char) : Option Int := do
  let (isNegative, word) := splitSign word
  return signed isNegative (← Text.number? 10 (← wholeDigits? word))

/-- The integer that a word is, if it has a place in sixty-four bits with a sign. -/
def integer? (word : List Char) : Option Int :=
  let found := match word with
    | '0' :: 'x' :: rest => integerIn? 16 rest
    | '0' :: 'o' :: rest => integerIn? 8 rest
    | '0' :: 'b' :: rest => integerIn? 2 rest
    | word => decimalInteger? word
  found.filter fun n => -0x8000000000000000 ≤ n && n < 0x8000000000000000

/-- The digits behind the point of a number, if it has a point. -/
def fractionDigits? : List Char → Option (List Char)
  | [] => some []
  | '.' :: word => digits? 10 word
  | _ => none

/-- The exponent of a number, if it has one. -/
def exponent? : List Char → Option Int
  | [] => some 0
  | _ :: word => do
    let (isNegative, word) := splitSign word
    return signed isNegative (← Text.number? 10 (← digits? 10 word))

/-- Whether a character starts an exponent. -/
def isExponentMark (c : Char) : Bool :=
  c == 'e' || c == 'E'

/-- The number of a word in decimal digits without a sign. -/
def magnitude? (word : List Char) : Option Float := do
  let mantissa := word.takeWhile (!isExponentMark ·)
  let exponentPart := word.dropWhile (!isExponentMark ·)
  let fractionPart := mantissa.dropWhile (· != '.')
  if exponentPart.isEmpty && fractionPart.isEmpty then none
  let whole ← wholeDigits? (mantissa.takeWhile (· != '.'))
  let fraction ← fractionDigits? fractionPart
  let size ← Text.number? 10 (whole ++ fraction)
  return Decimal.nearest size ((← exponent? exponentPart) - fraction.length)

/-- The number with a sign. -/
def withSign (isNegative : Bool) (x : Float) : Float :=
  if isNegative then -x else x

/-- The floating-point number that a word is. -/
def float? (word : List Char) : Option Float :=
  let (isNegative, size) := splitSign word
  if size == "inf".toList then some (withSign isNegative (1.0 / 0.0))
  else if size == "nan".toList then some (withSign isNegative (0.0 / 0.0))
  else ((magnitude? size).map (withSign isNegative)).filter (· != 1.0 / 0.0)

/-! ### Dates and times -/

/-- The number of two digits. -/
def twoDigits? (a b : Char) : Option Nat :=
  Text.number? 10 [a, b]

/-- Whether two digits are a number up to a limit. -/
def isUpTo (limit : Nat) (a b : Char) : Bool :=
  (twoDigits? a b).any (· ≤ limit)

/-- Whether a word is a date. -/
def isDate : List Char → Bool
  | [y1, y2, y3, y4, '-', m1, m2, '-', d1, d2] =>
    match Text.number? 10 [y1, y2, y3, y4], twoDigits? m1 m2, twoDigits? d1 d2 with
    | some year, some month, some day => (Calendar.Date.mk year month day).isValid
    | _, _, _ => false
  | _ => false

/-- Whether a word is an offset from universal time. -/
def isOffset : List Char → Bool
  | [c] => c == 'Z' || c == 'z'
  | [sign, h1, h2, ':', m1, m2] =>
    (sign == '+' || sign == '-') && isUpTo 23 h1 h2 && isUpTo 59 m1 m2
  | _ => false

/-- What is behind a fraction of a second, if there is one. -/
def afterFraction? : List Char → Option (List Char)
  | '.' :: rest =>
    if rest.head?.any Char.isDigit then some (rest.dropWhile Char.isDigit) else none
  | word => some word

/-- What is behind a time of day at the start of a word. -/
def afterTime? : List Char → Option (List Char)
  | h1 :: h2 :: ':' :: m1 :: m2 :: ':' :: s1 :: s2 :: rest =>
    if isUpTo 23 h1 h2 && isUpTo 59 m1 m2 && isUpTo 60 s1 s2 then afterFraction? rest else none
  | _ => none

/-- Whether a word is a time of day. -/
def isTime (word : List Char) : Bool :=
  afterTime? word == some []

/-- Whether a word is a time of day that an offset may follow. -/
def isTimeWithOffset (word : List Char) : Bool :=
  (afterTime? word).any fun rest => rest.isEmpty || isOffset rest

/-- Whether a word is a date with a time of day behind it. -/
def isDateWithTime (word : List Char) : Bool :=
  match word.drop 10 with
  | c :: rest => (c == 'T' || c == 't') && isDate (word.take 10) && isTimeWithOffset rest
  | [] => false

/-! ### Words -/

/-- The value that a word is. -/
def scalar? (word : List Char) : Option Value :=
  if word == "true".toList then some (.boolean true)
  else if word == "false".toList then some (.boolean false)
  else if isDate word || isTime word || isDateWithTime word then some .dateTime
  else match integer? word with
    | some n => some (.integer n)
    | none => (float? word).map .float

end NewsScoring.Toml
