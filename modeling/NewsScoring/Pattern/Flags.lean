/-!
# Flags of patterns

Flags change how a pattern is read.  They stand in a group, after `(?`, as letters that are switched
on and, behind a minus sign, letters that are switched off.
-/

namespace NewsScoring.Pattern

/-- How a pattern is read. -/
structure Flags where
  /-- Letters stand for all their case variants. -/
  caseless : Bool := false
  /-- `^` and `$` also fit at the ends of lines. -/
  multiLine : Bool := false
  /-- The dot also fits a line feed. -/
  dotAll : Bool := false
  /-- A carriage return ends a line, too. -/
  crlf : Bool := false
  /-- Sets of characters are those of all scripts. -/
  unicode : Bool := true
  /-- White space and comments are skipped. -/
  verbose : Bool := false

namespace Flags

/-- The letters of flags; `U` swaps which repetitions are greedy, which makes no difference to
whether a text has a part that fits. -/
def letters : List Char := ['i', 'm', 's', 'U', 'u', 'R', 'x']

/-- The flags with the one of a letter switched on or off. -/
def switch (flags : Flags) (letter : Char) (on : Bool) : Flags :=
  match letter with
  | 'i' => { flags with caseless := on }
  | 'm' => { flags with multiLine := on }
  | 's' => { flags with dotAll := on }
  | 'u' => { flags with unicode := on }
  | 'R' => { flags with crlf := on }
  | 'x' => { flags with verbose := on }
  | _ => flags

/-- The flags after several switches. -/
def switchAll (flags : Flags) (switches : List (Char × Bool)) : Flags :=
  switches.foldl (fun flags (letter, on) => flags.switch letter on) flags

/-- The switches at the start of a text up to a colon or a closing parenthesis, that mark, and the
text behind it.  No letter occurs twice, and a single minus sign comes before those switched off;
`found` are the switches before the text, last first, and `dangling` tells whether it follows a
minus sign. -/
def switches? (on dangling : Bool) (found : List (Char × Bool)) :
    List Char → Option (List (Char × Bool) × Char × List Char)
  | [] => none
  | c :: rest =>
    if c == ':' || c == ')' then if dangling then none else some (found.reverse, c, rest)
    else if c == '-' then if on then switches? false true found rest else none
    else if letters.contains c && !found.any (·.1 == c) then
      switches? on false ((c, on) :: found) rest
    else none

end Flags

/-- The text without a comment at its start, which ends with its line. -/
def afterComment : List Char → List Char
  | [] => []
  | c :: rest => if c == '\n' then rest else afterComment rest

end NewsScoring.Pattern
