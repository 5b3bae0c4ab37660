import NewsScoring.Pattern.CharSet

/-!
# Regular expressions

An `Expression` says which parts of a text fit a pattern.  Two measures bound the patterns that are
accepted: how deep its parts are nested, and how much memory its states take once every repetition
is written out.
-/

namespace NewsScoring.Pattern

/-- A condition on a position between two characters of a text. -/
inductive Assertion where
  | textStart
  | textEnd
  /-- At the start of a line; lines also end in a carriage return if the flag is set. -/
  | lineStart (crlf : Bool)
  /-- At the end of a line; lines also end in a carriage return if the flag is set. -/
  | lineEnd (crlf : Bool)
  /-- Between a character of a word and one that is none, with the given set of word characters. -/
  | wordBoundary (isWord : CharSet)
  | notWordBoundary (isWord : CharSet)
  /-- At the start of a word. -/
  | wordStart (isWord : CharSet)
  /-- At the end of a word. -/
  | wordEnd (isWord : CharSet)
  /-- Not behind a character of a word. -/
  | wordStartHalf (isWord : CharSet)
  /-- Not in front of a character of a word. -/
  | wordEndHalf (isWord : CharSet)

/-- A regular expression. -/
inductive Expression where
  /-- Fits the empty text. -/
  | empty
  /-- Fits one character of a class. -/
  | characters (c : CharClass)
  | assertion (condition : Assertion)
  | sequence (a b : Expression)
  | either (a b : Expression)
  /-- Fits from `least` to `most` repetitions of what `e` fits, without a bound if `most` is
  missing. -/
  | repetition (e : Expression) (least : Nat) (most : Option Nat)
  /-- Fits what `e` fits, one level further down. -/
  | nested (e : Expression)

namespace Expression

/-- The number of levels of an expression. -/
def depth : Expression → Nat
  | empty => 0
  | characters c => c.levels
  | assertion _ => 0
  | sequence a b => max a.depth b.depth
  | either a b => max a.depth b.depth
  | repetition e _ _ => e.depth + 1
  | nested e => e.depth + 1

/-- The number of states that a repetition of an expression of `states` states takes. -/
def repeatedStates (states least : Nat) (most : Option Nat) : Nat :=
  match most with
  | some most => states * least + (states + 1) * (most - least) + 1
  | Option.none => states * max least 1 + 1

/-- The number of states of an expression with every repetition written out. -/
def states : Expression → Nat
  | empty => 1
  | characters c => c.states
  | assertion _ => 1
  | sequence a b => a.states + b.states
  | either a b => a.states + b.states + 1
  | repetition e least most => repeatedStates e.states least most
  | nested e => e.states

end Expression

end NewsScoring.Pattern
