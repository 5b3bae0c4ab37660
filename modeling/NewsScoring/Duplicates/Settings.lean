import NewsScoring.Scalar

/-!
# When two articles tell the same story

The settings by which articles are compared: how far apart they may be published, how similar they
have to be, and how candidates for a comparison are asked for.
-/

namespace NewsScoring

/-- The settings for the search for duplicates. -/
structure DuplicateSettings (α : Type) where
  /-- Articles published this many hours apart, or more, are no duplicates. -/
  windowHours : Nat
  /-- The least similarity of duplicates. -/
  threshold : α
  /-- How many candidates are asked for at most. -/
  candidateLimit : Nat
  /-- How many keywords are given to the supplier of candidates. -/
  keywordCount : Nat
  deriving Repr

namespace DuplicateSettings

variable {α : Type} [Scalar α]

/-- The settings where nothing else is said: six hours and a similarity of a quarter. -/
def standard : DuplicateSettings α where
  windowHours := 6
  threshold := Scalar.one / Scalar.ofNat 4
  candidateLimit := 50
  keywordCount := 10

/-- The window in milliseconds. -/
def windowMilliseconds (settings : DuplicateSettings α) : Nat :=
  settings.windowHours * 3600000

end DuplicateSettings

end NewsScoring
