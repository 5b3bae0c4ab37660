import NewsScoring.Pattern.Expression
import NewsScoring.Pattern.Flags
import NewsScoring.Pattern.Property
import NewsScoring.Text.Digits

/-!
# Escapes in patterns

What a backslash and the characters behind it stand for: a character, a named set of characters, or
a condition.  In verbose patterns white space and comments may stand between the characters.
-/

namespace NewsScoring.Pattern

open Unicode (isWhiteSpace)

/-- What a single element of a pattern stands for. -/
inductive Atom where
  /-- A character; the flag tells whether it was written as a single byte. -/
  | literal (c : Char) (isByte : Bool)
  | oneOf (c : CharClass)
  | condition (a : Assertion)

/-- The text without the white space and the comments at its start; `fuel` bounds their number. -/
def skipFrom : Nat → List Char → List Char
  | 0, text => text
  | fuel + 1, text =>
    match text with
    | [] => []
    | c :: rest =>
      if isWhiteSpace c then skipFrom fuel rest
      else if c == '#' then skipFrom fuel (afterComment rest)
      else text

/-- The text without what is skipped at its start: nothing unless the pattern is verbose. -/
def skip (flags : Flags) (text : List Char) : List Char :=
  if flags.verbose then skipFrom text.length text else text

/-! ### Characters by their code -/

/-- The character of a code written in hexadecimal digits. -/
def charOfHex? (digits : List Char) : Option Char := do
  if digits.isEmpty then none
  let values ← digits.mapM Text.hexValue?
  let code := Text.numberIn 16 values
  if code.isValidChar then some (Char.ofNat code) else none

/-- The next `n` hexadecimal digits and the text behind them. -/
def hexDigits? (flags : Flags) : Nat → List Char → Option (List Char × List Char)
  | 0, text => some ([], text)
  | n + 1, c :: rest => do
    let _ ← Text.hexValue? c
    let (digits, rest) ← hexDigits? flags n (skip flags rest)
    return (c :: digits, rest)
  | _, [] => none

/-- The characters up to the next closing brace and the text behind it; `fuel` bounds their
number. -/
def braced? (flags : Flags) : Nat → List Char → Option (List Char × List Char)
  | fuel + 1, c :: rest => do
    let rest := skip flags rest
    if c == '\x7d' then return ([], rest)
    let (found, rest) ← braced? flags fuel rest
    return (c :: found, rest)
  | _, _ => none

/-- The character whose code follows the letter of an escape: in braces, or in `n` digits. -/
def hexEscape? (flags : Flags) (n : Nat) (text : List Char) : Option (Char × List Char) := do
  match skip flags text with
  | '\x7b' :: rest =>
    let (digits, rest) ← braced? flags (rest.length + 1) (skip flags rest)
    return (← charOfHex? digits, rest)
  | text =>
    let (digits, rest) ← hexDigits? flags n text
    return (← charOfHex? digits, rest)

/-! ### Boundaries of words -/

/-- The characters of words. -/
def wordSet (flags : Flags) : CharSet :=
  if flags.unicode then Unicode.isWord else fun c => c.isAlphanum || c == '_'

/-- Whether a character may stand in the name of a boundary. -/
def isBoundaryChar (c : Char) : Bool :=
  c.isAlpha || c == '-'

/-- The boundary of a name. -/
def namedBoundary? (flags : Flags) (name : String) : Option Assertion :=
  match name with
  | "start" => some (.wordStart (wordSet flags))
  | "end" => some (.wordEnd (wordSet flags))
  | "start-half" => some (.wordStartHalf (wordSet flags))
  | "end-half" => some (.wordEndHalf (wordSet flags))
  | _ => none

/-- The boundary that a `b` behind a backslash stands for: one whose name follows in braces, or any.
A brace that does not start a name is left for a repetition. -/
def boundary? (flags : Flags) (text : List Char) : Option (Atom × List Char) :=
  let plain := (Atom.condition (.wordBoundary (wordSet flags)), text)
  match text with
  | '\x7b' :: rest =>
    match skip flags rest with
    | [] => none
    | c :: rest =>
      if isBoundaryChar c then do
        let (name, rest) ← braced? flags (rest.length + 2) (c :: rest)
        if name.all isBoundaryChar then
          return (.condition (← namedBoundary? flags (String.ofList name)), rest)
        else none
      else some plain
  | _ => some plain

/-! ### All escapes -/

/-- The named set of a letter, or the characters outside it; such a complement is refused where a
pattern is not read as Unicode, since it would fit parts of characters. -/
def shorthandAtom? (flags : Flags) (letter : Char) : Option Atom := do
  let lower := letter.toLower
  if flags.unicode then
    let set ← CharSet.shorthand? lower
    let states := CharClass.shorthandStates lower
    return .oneOf (.flat (if letter == lower then set else set.complement) states)
  else if letter == lower then return .oneOf (.flat (← CharSet.asciiShorthand? lower) 2)
  else none

/-- The class of the property that is named behind a `p`, by one letter or in braces, or of the
characters outside it, and the text behind the name. -/
def property? (flags : Flags) (negated : Bool) (text : List Char) :
    Option (CharClass × List Char) := do
  let (name, rest) ← match skip flags text with
    | '\x7b' :: rest => braced? flags (rest.length + 1) (skip flags rest)
    | c :: rest => if c == '\\' then none else some ([c], rest)
    | [] => none
  let (named, isOutside) ← propertyClass? name
  if flags.unicode then
    let set := if flags.caseless then named.set.folded else named.set
    return (.flat (if negated != isOutside then set.complement else set) named.states, rest)
  else none

/-- The character or condition that a letter stands for. -/
def letterAtom? (flags : Flags) (letter : Char) : Option Atom :=
  match letter with
  | 'a' => some (.literal '\x07' false)
  | 'f' => some (.literal '\x0c' false)
  | 't' => some (.literal '\t' false)
  | 'n' => some (.literal '\n' false)
  | 'r' => some (.literal '\r' false)
  | 'v' => some (.literal '\x0b' false)
  | 'A' => some (.condition .textStart)
  | 'z' => some (.condition .textEnd)
  | 'B' => some (.condition (.notWordBoundary (wordSet flags)))
  | '<' => some (.condition (.wordStart (wordSet flags)))
  | '>' => some (.condition (.wordEnd (wordSet flags)))
  | _ => none

/-- Whether a character stands for itself behind a backslash: any ASCII character but letters,
digits and the angle brackets. -/
def isEscapable (c : Char) : Bool :=
  c.toNat < 0x80 && !c.isAlphanum && c != '<' && c != '>'

/-- What the text behind a backslash stands for, and the text behind that. -/
def escape? (flags : Flags) : List Char → Option (Atom × List Char)
  | [] => none
  | c :: rest =>
    if c == 'x' || c == 'u' || c == 'U' then do
      let digits := if c == 'x' then 2 else if c == 'u' then 4 else 8
      let isFixed := (skip flags rest).head? != some '\x7b'
      let (x, rest) ← hexEscape? flags digits rest
      return (.literal x (c == 'x' && isFixed), rest)
    else if c.toLower == 'd' || c.toLower == 's' || c.toLower == 'w' then
      (shorthandAtom? flags c).map (·, rest)
    else if c == 'p' || c == 'P' then
      (property? flags (c == 'P') rest).map fun (named, rest) => (.oneOf named, rest)
    else if isEscapable c then some (.literal c false, rest)
    else if c == 'b' then boundary? flags rest
    else (letterAtom? flags c).map (·, rest)

end NewsScoring.Pattern
