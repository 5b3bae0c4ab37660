import NewsScoring.Corpus

/-!
# Several corpora at work

A `Workshop` holds corpora under names.  A name that has not been used stands for the empty corpus.
A step adds a document to one of them, or merges one into another and thereby takes it away; merging
a corpus into itself leaves it as it is.
-/

namespace NewsScoring

/-- Corpora under names. -/
structure Workshop where
  corpora : KeyedList String Corpus

namespace Workshop

/-- The workshop without corpora. -/
def empty : Workshop := ⟨KeyedList.empty⟩

/-- What can be done with the corpora of a workshop. -/
inductive Step where
  /-- Adds a document, given by its tokens. -/
  | add (name : String) (tokens : List String)
  /-- Takes the corpus `other` away and merges it into the corpus `name`. -/
  | merge (name other : String)

/-- The corpus of a name. -/
def get (workshop : Workshop) (name : String) : Corpus :=
  (workshop.corpora.find? name).getD Corpus.empty

/-- The workshop with a corpus under a name. -/
def set (workshop : Workshop) (name : String) (corpus : Corpus) : Workshop :=
  ⟨workshop.corpora.put name corpus⟩

/-- The workshop without the corpus of a name. -/
def take (workshop : Workshop) (name : String) : Corpus × Workshop :=
  (workshop.get name, ⟨workshop.corpora.erase name⟩)

/-- The workshop after a step. -/
def step (workshop : Workshop) : Step → Workshop
  | .add name tokens => workshop.set name ((workshop.get name).add tokens)
  | .merge name other =>
    let (taken, rest) := workshop.take other
    rest.set name ((rest.get name).merge taken)

/-- The workshop after several steps. -/
def run (workshop : Workshop) (steps : List Step) : Workshop :=
  steps.foldl step workshop

end Workshop

end NewsScoring
