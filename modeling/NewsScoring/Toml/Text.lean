import NewsScoring.Text.Digits
import NewsScoring.Toml.Blank

/-!
# Texts of TOML

A text stands in quotes or in apostrophes, one of them for a text on one line and three for a text
that may have several lines.  In quotes a backslash starts an escape; in apostrophes every character
stands for itself.  The text is first cut out of its quotes, then its ends of lines are checked, and
last its escapes are replaced.
-/

namespace NewsScoring.Toml

/-! ### Cutting out -/

/-- What stands before the next mark, behind the reversed characters `done`, and the text behind the
mark. Where there are escapes, the character behind a backslash is no mark. -/
def cutLine? (mark : Char) (escapes : Bool) (done : List Char) :
    List Char → Option (List Char × List Char)
  | [] => none
  | [c] => if c == mark then some (done.reverse, []) else none
  | c :: d :: rest =>
    if escapes && c == '\\' then cutLine? mark escapes (d :: c :: done) rest
    else if c == mark then some (done.reverse, d :: rest)
    else cutLine? mark escapes (c :: done) (d :: rest)

/-- What stands before the next three marks, behind the reversed characters `done`, and the text
behind them.  Of more marks in a row the last three count, and up to two stand before them. -/
def cutLines? (mark : Char) (escapes : Bool) (done : List Char) :
    List Char → Option (List Char × List Char)
  | [] => none
  | [_] => none
  | [_, _] => none
  | a :: b :: c :: rest =>
    if escapes && a == '\\' then cutLines? mark escapes (b :: a :: done) (c :: rest)
    else if a == mark && b == mark && c == mark then
      match rest with
      | d :: e :: rest =>
        if d == mark && e == mark then some ((e :: d :: done).reverse, rest)
        else if d == mark then some ((d :: done).reverse, e :: rest)
        else some (done.reverse, d :: e :: rest)
      | [d] => if d == mark then some ((d :: done).reverse, []) else some (done.reverse, [d])
      | [] => some (done.reverse, [])
    else cutLines? mark escapes (a :: done) (b :: c :: rest)

/-! ### Lines -/

/-- A text with every end of a line as one line feed, if it has no other control characters. -/
def unifyLines? : List Char → Option (List Char)
  | [] => some []
  | '\n' :: rest => (unifyLines? rest).map ('\n' :: ·)
  | '\r' :: '\n' :: rest => (unifyLines? rest).map ('\n' :: ·)
  | c :: rest => if isPlain c then (unifyLines? rest).map (c :: ·) else none

/-- A text without an end of a line at its start. -/
def dropFirstBreak : List Char → List Char
  | '\n' :: rest => rest
  | text => text

/-! ### Escapes -/

/-- The character that a letter stands for behind a backslash. -/
def escaped? (c : Char) : Option Char :=
  match c with
  | 'b' => some '\x08'
  | 't' => some '\t'
  | 'n' => some '\n'
  | 'f' => some '\x0c'
  | 'r' => some '\r'
  | '"' => some '"'
  | '\\' => some '\\'
  | _ => none

/-- The character of a code in hexadecimal digits. -/
def charOfCode? (digits : List Char) : Option Char := do
  let code ← Text.number? 16 digits
  if code.isValidChar then some (Char.ofNat code) else none

/-- Whether the text is behind a backslash that takes the end of its line and the blanks behind it
away. -/
inductive Joining where
  | no
  /-- The end of the line is still to come. -/
  | before
  /-- The end of the line has come. -/
  | after
  deriving DecidableEq, Repr

/-- The text that a text with escapes stands for. -/
def unescape? : Joining → List Char → Option (List Char)
  | .before, [] => none
  | _, [] => some []
  | .before, c :: rest =>
    if isBlank c then unescape? .before rest
    else if c == '\n' then unescape? .after rest
    else none
  | _, '\\' :: 'u' :: a :: b :: c :: d :: rest =>
    match charOfCode? [a, b, c, d] with
    | some character => (unescape? .no rest).map (character :: ·)
    | none => none
  | _, '\\' :: 'U' :: a :: b :: c :: d :: e :: f :: g :: h :: rest =>
    match charOfCode? [a, b, c, d, e, f, g, h] with
    | some character => (unescape? .no rest).map (character :: ·)
    | none => none
  | _, '\\' :: c :: rest =>
    match escaped? c with
    | some character => (unescape? .no rest).map (character :: ·)
    | none =>
      if isBlank c then unescape? .before rest
      else if c == '\n' then unescape? .after rest
      else none
  | joining, c :: rest =>
    if joining == .after && (isBlank c || c == '\n') then unescape? .after rest
    else if c == '\\' then none
    else (unescape? .no rest).map (c :: ·)

/-! ### Texts -/

/-- The text on one line between two marks, and what is behind; the text starts behind the first
mark. -/
def lineText? (mark : Char) (escapes : Bool) (text : List Char) : Option (String × List Char) := do
  let (inner, rest) ← cutLine? mark escapes [] text
  if !inner.all isPlain then none
  let inner ← if escapes then unescape? .no inner else some inner
  return (String.ofList inner, rest)

/-- The text on several lines between three marks and three more, and what is behind; the text
starts behind the first three marks.  An end of a line right behind them does not belong to it. -/
def linesText? (mark : Char) (escapes : Bool) (text : List Char) : Option (String × List Char) := do
  let (inner, rest) ← cutLines? mark escapes [] text
  let inner := dropFirstBreak (← unifyLines? inner)
  let inner ← if escapes then unescape? .no inner else some inner
  return (String.ofList inner, rest)

/-- The text at the start of a TOML text, and what is behind it. -/
def text? : List Char → Option (String × List Char)
  | '"' :: '"' :: '"' :: rest => linesText? '"' true rest
  | '"' :: rest => lineText? '"' true rest
  | '\'' :: '\'' :: '\'' :: rest => linesText? '\'' false rest
  | '\'' :: rest => lineText? '\'' false rest
  | _ => none

end NewsScoring.Toml
