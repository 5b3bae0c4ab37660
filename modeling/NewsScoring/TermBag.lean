import NewsScoring.KeyedList

/-!
# Counting terms

A `TermBag` counts, over a number of documents, how often each term occurs and in how many of the
documents.  Terms are listed in the order of their first occurrence.  `ofTokenLists` counts one list
of tokens a document; `ofParts` takes counts that were stored, and refuses those that no documents
could have given.
-/

namespace NewsScoring

/-- How often a term occurs, and in how many documents. -/
structure Tally where
  frequency : Nat
  documents : Nat
  deriving DecidableEq, Repr, Inhabited

namespace Tally

/-- The tally of a term that does not occur. -/
def none : Tally := ⟨0, 0⟩

/-- The tally after one more occurrence, the first in its document or a later one. -/
def count (tally : Tally) (isFirst : Bool) : Tally :=
  ⟨tally.frequency + 1, tally.documents + isFirst.toNat⟩

end Tally

/-- The terms of a number of documents with their tallies. -/
structure TermBag where
  documentCount : Nat
  /-- The terms in the order of their first occurrence. -/
  terms : KeyedList String Tally

namespace TermBag

/-- The counts over no documents. -/
def empty : TermBag := ⟨0, KeyedList.empty⟩

instance : Inhabited TermBag := ⟨empty⟩

/-- The tally of a term, if it is listed. -/
def tally? (bag : TermBag) (term : String) : Option Tally :=
  bag.terms.find? term

/-- The tally of a term; that of a term that is not listed is zero. -/
def tally (bag : TermBag) (term : String) : Tally :=
  (bag.tally? term).getD Tally.none

/-- How often a term occurs. -/
def frequency (bag : TermBag) (term : String) : Nat :=
  (bag.tally term).frequency

/-- The number of documents in which a term occurs. -/
def documents (bag : TermBag) (term : String) : Nat :=
  (bag.tally term).documents

/-- The listed terms with their tallies, in order. -/
def toList (bag : TermBag) : List (String × Tally) :=
  bag.terms.entries

/-! ### Counting documents -/

/-- The tallies after the tokens of a document whose tokens in `seen` are counted already. -/
def countTokens (terms : KeyedList String Tally) (seen : List String) :
    List String → KeyedList String Tally
  | [] => terms
  | token :: rest =>
    let tally := (terms.find? token).getD Tally.none
    countTokens (terms.put token (tally.count (!seen.contains token))) (token :: seen) rest

/-- The counts after one more document, given by its tokens. -/
def addDocument (bag : TermBag) (tokens : List String) : TermBag :=
  ⟨bag.documentCount + 1, countTokens bag.terms [] tokens⟩

/-- The counts over documents given by their tokens. -/
def ofTokenLists (documents : List (List String)) : TermBag :=
  documents.foldl addDocument empty

/-! ### Stored counts -/

/-- Why stored counts are refused. -/
inductive Defect where
  /-- A term is said to occur in more documents than it occurs times. -/
  | rarerThanDocuments (term : String) (tally : Tally)
  /-- A term is said to occur in more documents than there are. -/
  | moreThanAllDocuments (term : String) (documents total : Nat)
  /-- A term is listed twice. -/
  | repeated (term : String)
  deriving DecidableEq, Repr

/-- The terms with one more stored tally. -/
def addPart (documentCount : Nat) (terms : KeyedList String Tally) (term : String) (tally : Tally) :
    Except Defect (KeyedList String Tally) :=
  if tally.frequency < tally.documents then .error (.rarerThanDocuments term tally)
  else if documentCount < tally.documents then
    .error (.moreThanAllDocuments term tally.documents documentCount)
  else if terms.contains term then .error (.repeated term)
  else .ok (terms.put term tally)

/-- The counts with the given tallies; the error names the first term that breaks a rule. -/
def ofParts (documentCount : Nat) (parts : List (String × Tally)) : Except Defect TermBag := do
  let terms ← parts.foldlM (fun terms part => addPart documentCount terms part.1 part.2)
    KeyedList.empty
  return ⟨documentCount, terms⟩

/-! ### Comparison -/

/-- Whether two counts agree on the number of documents and on every term, in whatever order the
terms are listed. -/
def agrees (a b : TermBag) : Bool :=
  a.documentCount == b.documentCount && a.terms.size == b.terms.size &&
    a.toList.all fun (term, tally) => b.tally? term == some tally

end TermBag

end NewsScoring
