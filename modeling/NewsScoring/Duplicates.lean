import NewsScoring.Duplicates.Settings
import NewsScoring.Weighing

/-!
# The search for duplicates

Two articles tell the same story if they were published within a window of time and are similar
enough. `findDuplicates` ranks those among given candidates, `findWith` asks a supplier for
candidates by the heaviest terms, and `withoutDuplicates` keeps the first article of each story.
-/

namespace NewsScoring

variable {α : Type} [Scalar α]

/-- A duplicate of an article. -/
structure DuplicateRelation (α : Type) where
  otherId : String
  similarity : α
  deriving DecidableEq

namespace DuplicateSettings

/-- The window in nanoseconds. -/
def windowNanoseconds (settings : DuplicateSettings α) : Nat :=
  settings.windowMilliseconds * 1000000

/-- Whether two articles with the given nanoseconds between them lie in one window. -/
def inWindow (settings : DuplicateSettings α) (delta : Int) : Bool :=
  delta.natAbs < settings.windowNanoseconds

/-- Whether articles of a similarity, with the given nanoseconds between them, are duplicates. -/
def isDuplicate (settings : DuplicateSettings α) (similarity : α) (delta : Int) : Bool :=
  settings.inWindow delta && decide (settings.threshold ≤ similarity)

end DuplicateSettings

namespace Duplicates

variable {m : Type → Type} [Monad m] [MonadExceptOf ScoringError m]

/-! ### Duplicates among candidates -/

/-- The similarity of a candidate to a subject of the given weights, if it is a duplicate. -/
def similarityOf? (w : Weighing m α) (settings : DuplicateSettings α) (subject : Document)
    (weights : WeightVector α) (candidate : Document) : m (Option α) := do
  let delta := candidate.publishedAt.nanosecondsSince subject.publishedAt
  if candidate.id == subject.id || !settings.inWindow delta then return none
  let other ← w.document candidate
  if other.isZero then return none
  let similarity ← MonadExcept.ofExcept (weights.cosine other)
  return if settings.isDuplicate similarity delta then some similarity else none

/-- The duplicates of an article among candidates, the most similar first.  An article without
weights has none to be found. -/
def findDuplicates (w : Weighing m α) (settings : DuplicateSettings α) (subject : Document)
    (candidates : List Document) : m (List (DuplicateRelation α)) := do
  let weights ← w.document subject
  if weights.isZero then throw ScoringError.zeroVector
  let offers ← candidates.mapM fun candidate => do
    let similarity ← similarityOf? w settings subject weights candidate
    return similarity.map (candidate.id, ·)
  -- as many places as candidates, so that none is dropped
  let ranked := (RankedList.empty candidates.length).addAll (offers.filterMap id)
  return ranked.toList.map fun (otherId, similarity) => ⟨otherId, similarity⟩

/-! ### Candidates from a supplier -/

/-- Gives up to a number of articles for keywords, or fails. -/
abbrev Supplier (m : Type → Type) (ε : Type) := List String → Nat → m (Except ε (List Document))

/-- The message about a supplier that failed for the given reason. -/
def failureMessage (reason : String) : String :=
  "candidate lookup failed: " ++ reason

/-- The duplicates of an article among the candidates of a supplier, which is asked once.  An
article without a term of positive weight has no keywords. -/
def findWith {ε : Type} (w : Weighing m α) (settings : DuplicateSettings α)
    (supplier : Supplier m ε) (subject : Document) :
    m (Except ε (List (DuplicateRelation α))) := do
  let keywords := (← w.document subject).topTerms settings.keywordCount
  if keywords.isEmpty then throw ScoringError.zeroVector
  match ← supplier keywords settings.candidateLimit with
  | .error cause => return .error cause
  | .ok candidates =>
    return .ok (← findDuplicates w settings subject (candidates.take settings.candidateLimit))

/-! ### The first article of each story -/

/-- An article that is kept, with its weights unless all of them are zero. -/
structure Kept (α : Type) where
  document : Document
  weights : Option (WeightVector α)

/-- Whether an article of the given weights is a duplicate of one that is kept. -/
def repeatsAny (settings : DuplicateSettings α) (document : Document) (weights : WeightVector α) :
    List (Kept α) → Except ScoringError Bool
  | [] => .ok false
  | ⟨_, none⟩ :: rest => repeatsAny settings document weights rest
  | ⟨other, some otherWeights⟩ :: rest => do
    let similarity ← weights.cosine otherWeights
    let delta := other.publishedAt.nanosecondsSince document.publishedAt
    if settings.isDuplicate similarity delta then return true
    else repeatsAny settings document weights rest

/-- The kept articles after one more has been looked at. -/
def keep (w : Weighing m α) (settings : DuplicateSettings α) (kept : List (Kept α))
    (document : Document) : m (List (Kept α)) := do
  let weights ← w.document document
  if weights.isZero then return kept ++ [⟨document, none⟩]
  let isRepeated ← MonadExcept.ofExcept (repeatsAny settings document weights kept)
  return if isRepeated then kept else kept ++ [⟨document, some weights⟩]

/-- The articles that are no duplicates of one that is kept before them, in order.  Articles without
weights are kept. -/
def withoutDuplicates (w : Weighing m α) (settings : DuplicateSettings α)
    (documents : List Document) : m (List Document) := do
  return (← documents.foldlM (keep w settings) []).map Kept.document

end Duplicates

end NewsScoring
