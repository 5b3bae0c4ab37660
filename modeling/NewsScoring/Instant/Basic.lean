import NewsScoring.Instant.Calendar

/-!
# Points in time

An `Instant` is a day of the calendar, a second of that day and the nanoseconds into that second,
all in universal time.  A leap second is the second before it, with more than a whole second's
nanoseconds.  `Instant.nanosecondsSince` is the time between two instants, which counts a leap
second that lies between their times of day.
-/

namespace NewsScoring

/-- A point in time, in universal time. -/
structure Instant where
  /-- The days since the first of January 1970. -/
  day : Int
  /-- The seconds since midnight. -/
  second : Nat
  /-- The nanoseconds into the second; `10 ^ 9` and more within a leap second. -/
  nanosecond : Nat
  deriving DecidableEq, Repr

namespace Instant

/-- Midnight at the start of the year 1970. -/
def epoch : Instant := ⟨0, 0, 0⟩

instance : Inhabited Instant := ⟨epoch⟩

/-- The number of nanoseconds of a second. -/
def nanosecondsPerSecond : Nat := 1000000000

/-- Whether an instant lies within a leap second. -/
def isLeap (t : Instant) : Bool :=
  nanosecondsPerSecond ≤ t.nanosecond

/-- The leap seconds between two times of day: a leap second counts where it is the earlier time. -/
def leapAdjustment (later earlier : Instant) : Int :=
  if earlier.second < later.second then (if earlier.isLeap then 1 else 0)
  else if later.second < earlier.second then (if later.isLeap then -1 else 0)
  else 0

/-- The nanoseconds from the second instant to the first, negative if the first is earlier. -/
def nanosecondsSince (later earlier : Instant) : Int :=
  let seconds := (later.day - earlier.day) * 86400 + ((later.second : Int) - earlier.second) +
    leapAdjustment later earlier
  seconds * nanosecondsPerSecond + ((later.nanosecond : Int) - earlier.nanosecond)

/-- The milliseconds since the epoch, rounded down. -/
def toMilliseconds (t : Instant) : Int :=
  (t.day * 86400 + t.second) * 1000 + (t.nanosecond / 1000000 : Nat)

/-- The instant that lies the given number of milliseconds after the epoch. -/
def ofMilliseconds (milliseconds : Int) : Instant :=
  let ofDay := (milliseconds % 86400000).toNat
  ⟨milliseconds / 86400000, ofDay / 1000, ofDay % 1000 * 1000000⟩

end Instant

end NewsScoring
