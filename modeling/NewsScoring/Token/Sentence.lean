import NewsScoring.Text.Basic

/-!
# Sentences

A sentence ends at a full stop, an exclamation mark or a question mark that white space follows.
`sentences` lists the sentences of a text in order; each starts with a character that is not white
space, and only the last may end otherwise than in such a mark.
-/

namespace NewsScoring.Sentence

open Unicode Text

/-- Whether a character can end a sentence. -/
def isTerminator (c : Char) : Bool :=
  c == '.' || c == '!' || c == '?'

/-- Whether a text starts with white space. -/
def startsBlank : List Char → Bool
  | [] => false
  | c :: _ => isWhiteSpace c

/-- The text up to and with its first terminator that white space follows, and the rest; the whole
text where there is no such terminator. -/
def splitFirst : List Char → List Char × List Char
  | [] => ([], [])
  | c :: rest =>
    if isTerminator c && startsBlank rest then ([c], rest)
    else (c :: (splitFirst rest).1, (splitFirst rest).2)

/-- What follows the first sentence is shorter than the text. -/
theorem length_splitFirst_snd (c : Char) (rest : List Char) :
    (splitFirst (c :: rest)).2.length < (c :: rest).length := by
  induction rest generalizing c with
  | nil => simp [splitFirst, startsBlank]
  | cons d rest ih =>
    rw [splitFirst]
    split
    · simp
    · exact Nat.lt_succ_of_lt (ih d)

/-- The sentences of a text, in order. -/
def sentences (text : List Char) : List (List Char) :=
  match _h : trimStart text with
  | [] => []
  | c :: rest => (splitFirst (c :: rest)).1 :: sentences (splitFirst (c :: rest)).2
termination_by text.length
decreasing_by
  have h1 := length_dropWhile_le isWhiteSpace text
  have h2 := length_splitFirst_snd c rest
  rw [trimStart] at _h
  rw [_h] at h1
  omega

end NewsScoring.Sentence
