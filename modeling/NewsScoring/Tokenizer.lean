import NewsScoring.Document
import NewsScoring.Stopwords.English
import NewsScoring.Token.Canonical
import NewsScoring.Token.Sentence

/-!
# Turning text into tokens

A `Tokenizer` cuts a text into sentences, the sentences into fragments, and keeps the canonical
tokens of the fragments that are not stopwords, in reading order.  The tokens of a document are
those of its title, its description, its paragraphs and its author.
-/

namespace NewsScoring

/-- Turns text into tokens and leaves its stopwords out. -/
structure Tokenizer where
  stopwords : Stopwords

namespace Tokenizer

/-- The tokenizer with the English stopwords. -/
def english : Tokenizer := ⟨Stopwords.english⟩

/-- The fragments of a text, sentence by sentence. -/
def fragments (text : String) : List (List Char) :=
  (Sentence.sentences text.toList).flatMap Text.fragments

/-- Whether a token is kept: neither a stopword nor one of the extra words. -/
def keeps (tokenizer : Tokenizer) (extra : List String) (token : String) : Bool :=
  !(tokenizer.stopwords.contains token || extra.contains token)

/-- The tokens of a text that are neither stopwords nor extra words, in reading order. -/
def tokensWithout (tokenizer : Tokenizer) (extra : List String) (text : String) : List String :=
  (((fragments text).filterMap Token.canonicalize).map String.ofList).filter (tokenizer.keeps extra)

/-- The tokens of a text, in reading order. -/
def tokens (tokenizer : Tokenizer) (text : String) : List String :=
  tokenizer.tokensWithout [] text

/-- The texts of a document that are scored, in order: title, description, paragraphs, author. -/
def documentTexts (document : Document) : List String :=
  document.title :: document.description :: (document.paragraphs ++ [document.author])

/-- The tokens of a document that are neither stopwords nor extra words. -/
def documentTokens (tokenizer : Tokenizer) (document : Document) (extra : List String := []) :
    List String :=
  (documentTexts document).flatMap (tokenizer.tokensWithout extra)

/-- The number of stopwords, for inspection. -/
def inspect (tokenizer : Tokenizer) : String :=
  "Tokenizer \x7b stopwords: " ++ tokenizer.stopwords.size.repr ++ " \x7d"

end Tokenizer

end NewsScoring
