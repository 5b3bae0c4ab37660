import NewsScoring.Instant.Basic
import NewsScoring.Text.Basic

/-!
# Reading instants

`Instant.ofString?` reads a date, a time and an offset from universal time, such as
`2015-04-01T12:34:56.789+02:00`.  The form is lenient: a blank or `t` may stand between date and
time, white space may stand around each part, months, days, hours, minutes and seconds may have one
digit, a year with a sign may have any number of digits, the offset may be written `Z`, `UTC`, or
with or without a colon, and digits of the fraction beyond the ninth are ignored.  The second 60 is
a leap second.
-/

namespace NewsScoring.Instant

open Text

/-- The number that digits write, read from the left after the digits that make up `value`. -/
def numberOfDigits (value : Nat) (digits : List Char) : Nat :=
  digits.foldl (fun n c => 10 * n + (c.toNat - '0'.toNat)) value

/-- The number that the first digits of a text write, at most `limit` of them, and the rest of the
text; there must be at least one digit. -/
def readNumber (limit : Nat) (text : List Char) : Option (Nat × List Char) :=
  let digits := (text.take limit).takeWhile Char.isDigit
  if digits.isEmpty then none else some (numberOfDigits 0 digits, text.drop digits.length)

/-- Reads a number of at most two digits between two bounds, after white space. -/
def readBounded (least most : Nat) (text : List Char) : Option (Nat × List Char) := do
  let (n, rest) ← readNumber 2 (trimStart text)
  if least ≤ n ∧ n ≤ most then some (n, rest) else none

/-- Reads a separator, after white space. -/
def readSeparator (separator : Char) (text : List Char) : Option (List Char) :=
  match trimStart text with
  | c :: rest => if c == separator then some rest else none
  | [] => none

/-- Reads a year: up to four digits, or a sign and any number of digits. -/
def readYear (text : List Char) : Option (Int × List Char) :=
  match trimStart text with
  | '-' :: rest => (readNumber rest.length rest).map fun (n, rest) => (-(n : Int), rest)
  | '+' :: rest => (readNumber rest.length rest).map fun (n, rest) => ((n : Int), rest)
  | start => (readNumber 4 start).map fun (n, rest) => ((n : Int), rest)

/-- Reads year, month and day. -/
def readDate (text : List Char) : Option (Calendar.Date × List Char) := do
  let (year, text) ← readYear text
  let text ← readSeparator '-' text
  let (month, text) ← readBounded 1 12 text
  let text ← readSeparator '-' text
  let (day, text) ← readBounded 1 31 text
  some (⟨year, month, day⟩, text)

/-- Reads what may follow the seconds: a point and at least one digit, as nanoseconds. -/
def readFraction : List Char → Option (Nat × List Char)
  | '.' :: text => do
    let (n, rest) ← readNumber 9 text
    some (n * Nat.pow 10 (9 - (text.length - rest.length)), rest.dropWhile Char.isDigit)
  | text => some (0, text)

/-- Reads a time of day, as seconds since midnight and nanoseconds. -/
def readTime (text : List Char) : Option (Nat × Nat × List Char) := do
  let (hour, text) ← readBounded 0 23 text
  let text ← readSeparator ':' text
  let (minute, text) ← readBounded 0 59 text
  let text ← readSeparator ':' text
  let (second, text) ← readBounded 0 60 text
  let (nanoseconds, text) ← readFraction text
  let start := (60 * hour + minute) * 60
  if second == 60 then some (start + 59, nanosecondsPerSecond + nanoseconds, text)
  else some (start + second, nanoseconds, text)

/-- Reads two digits of a number below the bound. -/
def readTwoDigits (bound : Nat) : List Char → Option (Nat × List Char)
  | a :: b :: rest =>
    let n := numberOfDigits 0 [a, b]
    if a.isDigit && b.isDigit && n < bound then some (n, rest) else none
  | _ => none

/-- Reads the sign of an offset; a minus sign may be a hyphen. -/
def readSign : List Char → Option (Int × List Char)
  | '+' :: rest => some (1, rest)
  | '-' :: rest => some (-1, rest)
  | '−' :: rest => some (-1, rest)
  | _ => none

/-- Reads an offset from universal time of less than a day, as seconds. -/
def readOffset (text : List Char) : Option (Int × List Char) := do
  match text with
  | 'Z' :: rest | 'z' :: rest => some (0, rest)
  | _ =>
    if (text.take 3).map Char.toUpper == ['U', 'T', 'C'] then some (0, text.drop 3)
    else
      let (sign, text) ← readSign text
      let (hours, text) ← readTwoDigits 24 text
      -- any number of colons and blanks may stand between hours and minutes
      let text := text.dropWhile fun c => c == ':' || Unicode.isWhiteSpace c
      let (minutes, text) ← readTwoDigits 60 text
      some (sign * (3600 * hours + 60 * minutes : Nat), text)

/-- The first and the last year of the dates that instants may have. -/
def yearBounds : Int × Int := (-262143, 262142)

/-- Whether a day lies within the years that instants may have. -/
def isRepresentable (day : Int) : Bool :=
  Calendar.dayNumber ⟨yearBounds.1, 1, 1⟩ ≤ day && day ≤ Calendar.dayNumber ⟨yearBounds.2, 12, 31⟩

/-- The instant of a date and time that are the given number of seconds ahead of universal time. -/
def ofLocal (date : Calendar.Date) (second nanosecond : Nat) (offset : Int) : Option Instant :=
  let utc := (second : Int) - offset
  let day := Calendar.dayNumber date
  if date.isValid && isRepresentable day && isRepresentable (day + utc / 86400) then
    some ⟨day + utc / 86400, (utc % 86400).toNat, nanosecond⟩
  else none

/-- Reads a whole text as an instant. -/
def ofString? (text : String) : Option Instant := do
  let (date, rest) ← readDate text.toList
  match rest with
  | [] => none
  | c :: rest =>
    if c == 'T' || c == 't' || c == ' ' then
      let (second, nanosecond, rest) ← readTime rest
      let (offset, rest) ← readOffset (trimStart rest)
      if (trimStart rest).isEmpty then ofLocal date second nanosecond offset else none
    else none

end NewsScoring.Instant
