/-!
# Blanks and comments of TOML

Blanks and tabs may stand between the parts of a line, and a comment at its end.  Inside an array
lines may also end.
-/

namespace NewsScoring.Toml

/-- Whether a character is a blank or a tab. -/
def isBlank (c : Char) : Bool :=
  c == ' ' || c == '\t'

/-- Whether a character may stand in a comment or a text: all but the control characters other than
the tab. -/
def isPlain (c : Char) : Bool :=
  c == '\t' || (' ' ≤ c && c != '\x7f')

/-- The text behind the blanks at its start. -/
def dropBlanks (text : List Char) : List Char :=
  text.dropWhile isBlank

/-- The text behind a comment, if there is one at its start. -/
def dropComment : List Char → List Char
  | '#' :: rest => rest.dropWhile isPlain
  | text => text

/-- The text behind the end of the line, where only blanks and a comment stand before it. -/
def afterLine? (text : List Char) : Option (List Char) :=
  match dropComment (dropBlanks text) with
  | [] => some []
  | '\n' :: rest => some rest
  | '\r' :: '\n' :: rest => some rest
  | _ => none

/-- The text behind blanks, comments and ends of lines; the flag tells whether the text starts
inside a comment. -/
def dropLines (inComment : Bool) : List Char → List Char
  | [] => []
  | '\n' :: rest => dropLines false rest
  | '\r' :: '\n' :: rest => dropLines false rest
  | c :: rest =>
    if inComment then if isPlain c then dropLines true rest else c :: rest
    else if c == '#' then dropLines true rest
    else if isBlank c then dropLines false rest
    else c :: rest

end NewsScoring.Toml
