import NewsScoring.Text.Basic
import NewsScoring.Unicode.Alphabetic
import NewsScoring.Unicode.Lowercase

/-!
# Canonical tokens

A fragment of text becomes a token in stages: it is mapped to lower case, loses what stands before
its first letter, number or one of `#`, `@`, `&`, then loses punctuation and possessives from its
end until nothing more comes off (`stripEnding`), then one full stop, one ending `-based`, and all
from its first apostrophe on.  What is left is a token if it is plausible as a word (`isPlausible`).
-/

namespace NewsScoring.Token

open Unicode Text

/-- The fewest characters of a token. -/
def minLength : Nat := 3

/-- The most characters of a token. -/
def maxLength : Nat := 64

/-- The characters that come off the end of a token. -/
def trailingMarks : List Char :=
  ['’', '\'', '”', '"', ',', ';', '-', '!', '?', ':', ')', ']', '}', '*']

/-- Whether a character is an apostrophe, straight or curly. -/
def isApostrophe (c : Char) : Bool :=
  c == '\'' || c == '’'

/-- Whether a character is one of those that mark a fragment as something else than a word. -/
def isSigil (c : Char) : Bool :=
  c == '#' || c == '@' || c == '&'

/-- One round of stripping: trailing punctuation, then each spelling of the possessive once. -/
def stripEndingOnce (token : List Char) : List Char :=
  stripSuffix ['’', 's'] (stripSuffix ['\'', 's'] (dropEndWhile trailingMarks.contains token))

/-- The token after as many rounds of stripping as take something off. -/
def stripEnding (token : List Char) : List Char :=
  if (stripEndingOnce token).length < token.length then stripEnding (stripEndingOnce token)
  else token
termination_by token.length

/-- Whether the token starts with ASCII digits that a hyphen follows. -/
def startsNumbered (token : List Char) : Bool :=
  !(token.takeWhile Char.isDigit).isEmpty &&
    ['-'].isPrefixOf (token.dropWhile Char.isDigit)

/-- Whether a token is plausible as a word: neither too short nor too long, no handle, entity or
link, not cut off, with at least one letter, and no number with a unit. -/
def isPlausible (token : List Char) : Bool :=
  (minLength ≤ token.length && token.length ≤ maxLength) &&
  !(token.head?.any isSigil || "t.co/".toList.isPrefixOf token) &&
  !(token.contains '…' || hasPart "...".toList token || hasPart "://".toList token) &&
  token.any isAlphabetic &&
  !startsNumbered token

/-- Whether a token can start with the character. -/
def canStart (c : Char) : Bool :=
  isAlphanumeric c || isSigil c

/-- The word that a fragment stands for, plausible or not. -/
def normalize (fragment : List Char) : List Char :=
  let start := (lowercase fragment).dropWhile (!canStart ·)
  -- the full stop comes off first, so that one in front of `-based` stays
  let stem := stripSuffix "-based".toList (stripSuffix ['.'] (stripEnding start))
  stem.takeWhile (!isApostrophe ·)

/-- The token that a fragment stands for, if it is plausible as a word. -/
def canonicalize (fragment : List Char) : Option (List Char) :=
  if isPlausible (normalize fragment) then some (normalize fragment) else none

end NewsScoring.Token
