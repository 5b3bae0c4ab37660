import NewsScoring.Text.Digits

/-!
# The tokens of JSON

`tokens?` cuts a JSON text into its tokens.  A string keeps its escapes by code, so that a text
whose strings are not all well-formed still has tokens; `characters?` then gives the characters of a
string, if every surrogate in it has its partner.  A number is kept as it is written.
-/

namespace NewsScoring.Json

/-- A part of a string: a character, or an escaped UTF-16 code unit. -/
inductive StringPart where
  | character (c : Char)
  | codeUnit (code : Nat)
  deriving DecidableEq, Repr

/-- A token of a JSON text. -/
inductive Token where
  /-- One of the characters that give the text its structure: brackets, braces, comma and colon. -/
  | mark (c : Char)
  | null
  | boolean (value : Bool)
  | number (text : List Char)
  | string (parts : List StringPart)
  deriving DecidableEq, Repr

/-! ### Strings -/

/-- The character that a letter stands for after a backslash. -/
def escaped? (c : Char) : Option Char :=
  match c with
  | '"' => some '"'
  | '\\' => some '\\'
  | '/' => some '/'
  | 'b' => some '\x08'
  | 'f' => some '\x0c'
  | 'n' => some '\n'
  | 'r' => some '\r'
  | 't' => some '\t'
  | _ => none

/-- The number that four hexadecimal digits denote. -/
def codeUnit? (a b c d : Char) : Option Nat := do
  return Text.numberIn 16 (← [a, b, c, d].mapM Text.hexValue?)

/-- The parts of a string and the text behind it, where the text starts behind the opening quote;
`parts` are those before it, last first. -/
def stringParts? (parts : List StringPart) : List Char → Option (List StringPart × List Char)
  | '"' :: rest => some (parts.reverse, rest)
  | '\\' :: 'u' :: a :: b :: c :: d :: rest =>
    match codeUnit? a b c d with
    | some code => stringParts? (.codeUnit code :: parts) rest
    | none => none
  | '\\' :: c :: rest =>
    match escaped? c with
    | some c => stringParts? (.character c :: parts) rest
    | none => none
  | c :: rest => if c.toNat < 0x20 then none else stringParts? (.character c :: parts) rest
  | [] => none

/-- Whether a code unit is the first half of a pair of surrogates. -/
def isHighSurrogate (code : Nat) : Bool :=
  0xD800 ≤ code && code < 0xDC00

/-- Whether a code unit is the second half of a pair of surrogates. -/
def isLowSurrogate (code : Nat) : Bool :=
  0xDC00 ≤ code && code < 0xE000

/-- The characters of a string, unless a surrogate stands alone. -/
def characters? : List StringPart → Option (List Char)
  | [] => some []
  | .character c :: rest => (characters? rest).map (c :: ·)
  | .codeUnit high :: .codeUnit low :: rest =>
    if isHighSurrogate high then
      if isLowSurrogate low then
        (characters? rest).map
          (Char.ofNat (0x10000 + (high - 0xD800) * 0x400 + (low - 0xDC00)) :: ·)
      else none
    else if isLowSurrogate high then none
    else (characters? (.codeUnit low :: rest)).map (Char.ofNat high :: ·)
  | .codeUnit code :: rest =>
    if isHighSurrogate code || isLowSurrogate code then none
    else (characters? rest).map (Char.ofNat code :: ·)

/-! ### Numbers -/

/-- The text behind a run of digits, which must not be empty. -/
def afterDigits? (text : List Char) : Option (List Char) :=
  if text.head?.any Char.isDigit then some (text.dropWhile Char.isDigit) else none

/-- The text behind the whole part of a number: one zero, or digits that do not start with zero. -/
def afterWhole? : List Char → Option (List Char)
  | '0' :: rest => some rest
  | text => afterDigits? text

/-- The text behind the fraction of a number, if there is one. -/
def afterFraction? : List Char → Option (List Char)
  | '.' :: rest => afterDigits? rest
  | text => some text

/-- The text behind a sign, if there is one. -/
def afterSign : List Char → List Char
  | '+' :: rest => rest
  | '-' :: rest => rest
  | text => text

/-- The text behind the exponent of a number, if there is one. -/
def afterExponent? : List Char → Option (List Char)
  | 'e' :: rest => afterDigits? (afterSign rest)
  | 'E' :: rest => afterDigits? (afterSign rest)
  | text => some text

/-- The text behind a number without its minus sign. -/
def afterNumber? (text : List Char) : Option (List Char) := do
  afterExponent? (← afterFraction? (← afterWhole? text))

/-- The number that a text has before its ending, and that ending. -/
def numberBefore (text behind : List Char) : Token × List Char :=
  (.number (text.take (text.length - behind.length)), behind)

/-! ### All tokens -/

/-- Whether a character may stand between tokens. -/
def isBlank (c : Char) : Bool :=
  c == ' ' || c == '\n' || c == '\t' || c == '\r'

/-- Whether a character is a token of structure. -/
def isMark (c : Char) : Bool :=
  c == '[' || c == ']' || c == '\x7b' || c == '\x7d' || c == ',' || c == ':'

/-- The first token of a text that does not start with a blank, and the text behind it. -/
def token? : List Char → Option (Token × List Char)
  | 'n' :: 'u' :: 'l' :: 'l' :: rest => some (.null, rest)
  | 't' :: 'r' :: 'u' :: 'e' :: rest => some (.boolean true, rest)
  | 'f' :: 'a' :: 'l' :: 's' :: 'e' :: rest => some (.boolean false, rest)
  | '"' :: rest => (stringParts? [] rest).map fun (parts, rest) => (.string parts, rest)
  | '-' :: rest => (afterNumber? rest).map (numberBefore ('-' :: rest))
  | c :: rest =>
    if isMark c then some (.mark c, rest)
    else (afterNumber? (c :: rest)).map (numberBefore (c :: rest))
  | [] => none

/-- The tokens of a text, after those of `found`, last first; `fuel` bounds their number. -/
def tokensFrom? : Nat → List Token → List Char → Option (List Token)
  | 0, _, _ => none
  | fuel + 1, found, text =>
    match text.dropWhile isBlank with
    | [] => some found.reverse
    | text =>
      match token? text with
      | some (token, rest) => tokensFrom? fuel (token :: found) rest
      | none => none

/-- The tokens of a text.  Each takes a character at least, so that their number is bounded. -/
def tokens? (text : List Char) : Option (List Token) :=
  tokensFrom? (text.length + 1) [] text

end NewsScoring.Json
