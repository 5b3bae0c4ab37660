import NewsScoring.TermBag

/-!
# Corpora

A `Corpus` gathers the counts of documents in any order, and can take in another corpus.  `freeze`
lists its terms in the order of their UTF-8 bytes, so that the result does not depend on the order
in which documents and corpora came in.
-/

namespace NewsScoring

/-- Counts that are still being gathered. -/
structure Corpus where
  documentCount : Nat
  terms : KeyedList String Tally

namespace Corpus

/-- The corpus without documents. -/
def empty : Corpus := ⟨0, KeyedList.empty⟩

instance : Inhabited Corpus := ⟨empty⟩

/-- The terms after one more occurrence of a term. -/
def addOccurrence (terms : KeyedList String Tally) (term : String) (isFirst : Bool) :
    KeyedList String Tally :=
  match terms.find? term with
  | some tally => terms.put term (tally.count isFirst)
  | none => terms.put term ⟨1, 1⟩

/-- The terms after the tokens of a document whose tokens in `seen` came before. -/
def addTokens (terms : KeyedList String Tally) (seen : List String) :
    List String → KeyedList String Tally
  | [] => terms
  | token :: rest =>
    addTokens (addOccurrence terms token (!seen.contains token)) (token :: seen) rest

/-- The corpus with one more document, given by its tokens. -/
def add (corpus : Corpus) (tokens : List String) : Corpus :=
  ⟨corpus.documentCount + 1, addTokens corpus.terms [] tokens⟩

/-- The terms after those of another corpus have been counted in. -/
def addTally (terms : KeyedList String Tally) (term : String) (tally : Tally) :
    KeyedList String Tally :=
  match terms.find? term with
  | some own =>
    terms.put term ⟨own.frequency + tally.frequency, own.documents + tally.documents⟩
  | none => terms.put term tally

/-- The corpus with the documents of another. -/
def merge (corpus other : Corpus) : Corpus :=
  ⟨corpus.documentCount + other.documentCount,
    other.terms.entries.foldl (fun terms entry => addTally terms entry.1 entry.2) corpus.terms⟩

/-- The bytes of a term, the key of its order. -/
def termBytes (term : String) : List UInt8 :=
  term.toUTF8.toList

/-- Whether a term stands at or before another. -/
def termLe (a b : String) : Bool :=
  !decide (termBytes b < termBytes a)

/-- The counts of the corpus, with the terms in the order of their bytes. -/
def freeze (corpus : Corpus) : TermBag :=
  ⟨corpus.documentCount, corpus.terms.sortedBy termLe⟩

end Corpus

end NewsScoring
