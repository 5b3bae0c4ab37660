import NewsScoring.Unicode.CaseFolding
import NewsScoring.Unicode.WhiteSpace
import NewsScoring.Unicode.Word

/-!
# Sets of characters in patterns

A `CharSet` tells of each character whether it belongs.  The sets named in patterns come in two
versions: one for all scripts, and one of ASCII characters alone.
-/

namespace NewsScoring.Pattern

/-- A set of characters. -/
abbrev CharSet := Char → Bool

namespace CharSet

/-- The set without characters. -/
def none : CharSet := fun _ => false

/-- The characters from `low` to `high`. -/
def range (low high : Char) : CharSet := fun c => low ≤ c && c ≤ high

/-- The set of one character. -/
def single (x : Char) : CharSet := fun c => c == x

/-- The characters outside a set. -/
def complement (s : CharSet) : CharSet := fun c => !s c

/-- The characters of either set. -/
def union (s t : CharSet) : CharSet := fun c => s c || t c

/-- The characters of any of the sets. -/
def unions (sets : List CharSet) : CharSet := fun c => sets.any (· c)

/-- The characters with a case variant in a set. -/
def folded (s : CharSet) : CharSet := fun c => (Unicode.caseVariants c).any s

/-- The characters with an ASCII case variant in a set. -/
def foldedAscii (s : CharSet) : CharSet := fun c => s c || s c.toLower || s c.toUpper

/-- Whether none of the characters from U+0080 to U+00FF, which stand for single bytes where a
pattern is not read as Unicode, belongs to the set. -/
def isAscii (s : CharSet) : Bool :=
  (List.range 128).all fun i => !s (Char.ofNat (128 + i))

/-! ### Named sets -/

/-- The ASCII characters of a named set. -/
def ascii? (name : String) : Option CharSet :=
  match name with
  | "alnum" => some Char.isAlphanum
  | "alpha" => some Char.isAlpha
  | "ascii" => some fun c => c.toNat < 0x80
  | "blank" => some fun c => c == '\t' || c == ' '
  | "cntrl" => some fun c => c.toNat < 0x20 || c.toNat == 0x7F
  | "digit" => some Char.isDigit
  | "graph" => some (range '!' '~')
  | "lower" => some (range 'a' 'z')
  | "print" => some (range ' ' '~')
  | "punct" => some fun c => range '!' '~' c && !c.isAlphanum
  | "space" => some fun c => range '\t' '\r' c || c == ' '
  | "upper" => some (range 'A' 'Z')
  | "word" => some fun c => c.isAlphanum || c == '_'
  | "xdigit" => some fun c => c.isDigit || range 'a' 'f' c || range 'A' 'F' c
  | _ => Option.none

/-- The ASCII version of the set that a letter names. -/
def asciiShorthand? (letter : Char) : Option CharSet :=
  match letter with
  | 'd' => ascii? "digit"
  | 's' => ascii? "space"
  | 'w' => ascii? "word"
  | _ => Option.none

/-- The set that a letter names. -/
def shorthand? (letter : Char) : Option CharSet :=
  match letter with
  | 'd' => some Unicode.isDecimalDigit
  | 's' => some Unicode.isWhiteSpace
  | 'w' => some Unicode.isWord
  | _ => Option.none

end CharSet

/-! ### Sets as they are written -/

/-- A set of characters as a pattern writes it. -/
structure CharClass where
  set : CharSet
  /-- The number of levels of brackets and operators in it. -/
  levels : Nat
  /-- About the number of states that it takes: the byte sequences of its characters. -/
  states : Nat

namespace CharClass

/-- The class of a set that is written without brackets and takes the given number of states. -/
def flat (set : CharSet) (states : Nat) : CharClass := ⟨set, 0, states⟩

/-- The class of one character. -/
def single (c : Char) : CharClass := flat (.single c) 1

/-- The states that it takes to tell the characters of all scripts apart from those of a set. -/
def complementStates : Nat := 12

/-- About the number of states of the named set of a letter, for all scripts. -/
def shorthandStates (letter : Char) : Nat :=
  match letter with
  | 'd' => 110
  | 's' => 16
  | _ => 1600

end CharClass

end NewsScoring.Pattern
