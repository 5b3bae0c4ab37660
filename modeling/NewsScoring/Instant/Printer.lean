import NewsScoring.Instant.Basic

/-!
# Writing instants

`Instant.render` writes an instant as a date and a time of universal time, `2015-04-01T12:34:56Z`.
The fraction of a second has as few of three, six or nine digits as show it whole, and none if it is
zero.  A year before 0 or after 9999 has a sign.
-/

namespace NewsScoring.Instant

/-- A number with leading zeros up to the given width. -/
def padded (width n : Nat) : String :=
  let digits := n.repr
  String.ofList (List.replicate (width - digits.length) '0') ++ digits

/-- The text of a year: four digits, with a sign outside the years 0 to 9999. -/
def renderYear (year : Int) : String :=
  if 0 ≤ year ∧ year ≤ 9999 then padded 4 year.toNat
  else (if year < 0 then "-" else "+") ++ padded 4 year.natAbs

/-- The text of the fraction of a second. -/
def renderFraction (nanoseconds : Nat) : String :=
  if nanoseconds == 0 then ""
  else if nanoseconds % 1000000 == 0 then "." ++ padded 3 (nanoseconds / 1000000)
  else if nanoseconds % 1000 == 0 then "." ++ padded 6 (nanoseconds / 1000)
  else "." ++ padded 9 nanoseconds

/-- The text of an instant; a leap second shows as the second 60. -/
def render (t : Instant) : String :=
  let date := Calendar.dateOfDay t.day
  let second := t.second % 60 + t.nanosecond / nanosecondsPerSecond
  renderYear date.year ++ "-" ++ padded 2 date.month ++ "-" ++ padded 2 date.day ++ "T" ++
    padded 2 (t.second / 3600) ++ ":" ++ padded 2 (t.second / 60 % 60) ++ ":" ++ padded 2 second ++
    renderFraction (t.nanosecond % nanosecondsPerSecond) ++ "Z"

end NewsScoring.Instant
