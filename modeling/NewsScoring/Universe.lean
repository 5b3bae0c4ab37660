import NewsScoring.TermBag

/-!
# Universes

A universe is the corpus against which the weight of a term is measured: its number of documents,
and for each term the number of them in which the term occurs.  Universes are told apart by an
identifier that each gets when it is made, so that weights computed for one are not taken for those
of another.
-/

namespace NewsScoring

/-- A corpus to weigh terms against. -/
structure Universe where
  id : Nat
  bag : TermBag

namespace Universe

/-- The number of documents of a universe. -/
def documentCount (u : Universe) : Nat :=
  u.bag.documentCount

/-- The number of documents of a universe in which a term occurs. -/
def documents (u : Universe) (term : String) : Nat :=
  u.bag.documents term

end Universe

end NewsScoring
