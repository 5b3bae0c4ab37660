import NewsScoring.Text.Basic
import NewsScoring.Unicode.Lowercase

/-!
# Stopwords

Words to leave out of every count.  A list of words is trimmed and mapped to lower case; empty words
and repetitions are dropped.  `Stopwords.ofText` reads one word a line, where a line that starts
with `#` is a comment.
-/

namespace NewsScoring

/-- A set of words to leave out, each listed once. -/
structure Stopwords where
  words : List String

namespace Stopwords

/-- The form in which a word is listed: trimmed and in lower case. -/
def normalize (word : String) : String :=
  String.ofList (Unicode.lowercase (Text.trim word.toList))

/-- The set of the given words. -/
def ofList (words : List String) : Stopwords :=
  ⟨((words.map normalize).filter (!·.isEmpty)).eraseDups⟩

/-- The set of the words of a text, one a line; blank lines and lines that start with `#` list
none. -/
def ofText (text : String) : Stopwords :=
  ofList <| (((Text.lines text.toList).map Text.trim).filter
    fun line => !line.isEmpty && line.head? != some '#').map String.ofList

/-- Whether a token is listed. -/
def contains (stopwords : Stopwords) (token : String) : Bool :=
  stopwords.words.contains token

/-- The number of listed words. -/
def size (stopwords : Stopwords) : Nat :=
  stopwords.words.length

end Stopwords

end NewsScoring
