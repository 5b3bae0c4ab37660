import NewsScoring.Unicode.WhiteSpace

/-!
# Cutting text

Texts are handled as lists of characters.  `trimStart` and `trimEnd` drop white space from the ends,
`fragments` are the maximal runs without white space, `lines` are the runs between line feeds, and
`stripSuffix?` takes a known ending off.
-/

namespace NewsScoring.Text

open Unicode

/-- The text from its first character that is not white space on. -/
def trimStart (text : List Char) : List Char :=
  text.dropWhile isWhiteSpace

/-- The text without the longest ending whose characters all satisfy `p`. -/
def dropEndWhile (p : Char → Bool) (text : List Char) : List Char :=
  (text.reverse.dropWhile p).reverse

/-- The text up to its last character that is not white space. -/
def trimEnd (text : List Char) : List Char :=
  dropEndWhile isWhiteSpace text

/-- The text without the white space at both ends. -/
def trim (text : List Char) : List Char :=
  trimEnd (trimStart text)

/-- A string without the white space at both ends. -/
def trimString (text : String) : String :=
  String.ofList (trim text.toList)

/-- The text without a given ending, if it has that ending. -/
def stripSuffix? (suffix text : List Char) : Option (List Char) :=
  if suffix.isSuffixOf text then some (text.take (text.length - suffix.length)) else none

/-- The text without a given ending, or the text itself where it ends otherwise. -/
def stripSuffix (suffix text : List Char) : List Char :=
  (stripSuffix? suffix text).getD text

/-- Whether `part` occurs in the text as a contiguous part. -/
def hasPart (part : List Char) : List Char → Bool
  | [] => part.isEmpty
  | c :: rest => part.isPrefixOf (c :: rest) || hasPart part rest

/-- Dropping characters does not lengthen a text. -/
theorem length_dropWhile_le (p : Char → Bool) (text : List Char) :
    (text.dropWhile p).length ≤ text.length :=
  (List.dropWhile_suffix p).length_le

/-- The maximal runs of characters that are not white space, in order. -/
def fragments (text : List Char) : List (List Char) :=
  match _h : trimStart text with
  | [] => []
  | c :: rest =>
    (c :: rest.takeWhile (!isWhiteSpace ·)) :: fragments (rest.dropWhile (!isWhiteSpace ·))
termination_by text.length
decreasing_by
  have h1 := length_dropWhile_le isWhiteSpace text
  have h2 := length_dropWhile_le (!isWhiteSpace ·) rest
  rw [trimStart] at _h
  rw [_h, List.length_cons] at h1
  omega

/-- The lines of a text: the runs between line feeds, where a line feed at the very end closes the
last line and opens none. -/
def lines : List Char → List (List Char)
  | [] => []
  | c :: rest =>
    (c :: rest).takeWhile (· != '\n') :: lines (((c :: rest).dropWhile (· != '\n')).drop 1)
termination_by text => text.length
decreasing_by
  have h := length_dropWhile_le (· != '\n') (c :: rest)
  rw [List.length_drop, List.length_cons] at *
  omega

end NewsScoring.Text
