import NewsScoring.TermBag
import NewsScoring.Tokenizer

/-!
# Counting texts and documents

The terms of texts and of documents are counted by their tokens (`TermBag.ofTokenLists`), where each
text and each document counts as one document.
-/

namespace NewsScoring.Tokenizer

/-- The counted terms of a document. -/
def bag (tokenizer : Tokenizer) (document : Document) : TermBag :=
  .ofTokenLists [tokenizer.documentTokens document]

/-- The counted terms of documents, without some extra words. -/
def bagOfDocuments (tokenizer : Tokenizer) (documents : List Document)
    (extra : List String := []) : TermBag :=
  .ofTokenLists (documents.map (tokenizer.documentTokens · extra))

/-- The counted terms of texts, each of them a document. -/
def bagOfTexts (tokenizer : Tokenizer) (texts : List String) : TermBag :=
  .ofTokenLists (texts.map tokenizer.tokens)

@[simp]
theorem documentCount_bag (tokenizer : Tokenizer) (document : Document) :
    (tokenizer.bag document).documentCount = 1 :=
  rfl

end NewsScoring.Tokenizer
