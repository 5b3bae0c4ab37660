import NewsScoring.Pattern.Reader
import NewsScoring.Pattern.Search

/-!
# Patterns

A pattern is a regular expression that is searched for in texts.  Patterns that are nested too
deeply, or whose repetitions take too much memory when written out, are refused.
-/

namespace NewsScoring.Pattern

/-- The most levels of a pattern. -/
def maxDepth : Nat := 250

/-- The most bytes that the states of a pattern may take. -/
def maxBytes : Nat := 10 * 1024 * 1024

/-- The number of bytes that a state takes. -/
def bytesPerState : Nat := 32

/-- Whether an expression is within the bounds for patterns. -/
def isBounded (e : Expression) : Bool :=
  e.depth ≤ maxDepth && e.states * bytesPerState ≤ maxBytes

/-- The expression of a pattern, if it is well-formed and within bounds. -/
def compile? (pattern : String) : Option Expression :=
  (Expression.ofText? pattern.toList).filter isBounded

end NewsScoring.Pattern
