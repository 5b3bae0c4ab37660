import NewsScoring.Cbor.Record
import NewsScoring.TermBag

/-!
# Counted terms as CBOR items

Counts are stored as the number of documents and the list of terms with their tallies, in order.
-/

namespace NewsScoring.TermBag

open Cbor

variable {α : Type}

/-- A term with its tally as a record. -/
def partItem (part : String × Tally) : Item α :=
  .ofFields [("word", .text part.1), ("frequency", .unsigned part.2.frequency),
    ("document_occurrences", .unsigned part.2.documents)]

/-- Counts as a record. -/
def toItem (bag : TermBag) : Item α :=
  .ofFields [("document_count", .unsigned bag.documentCount),
    ("words", .list (bag.toList.map partItem))]

/-- The term and the tally of a record. -/
def part? (item : Item α) : Option (String × Tally) := do
  match ← item.fields? ["word", "frequency", "document_occurrences"] with
  | [word, frequency, documents] => return (← word.text?, ⟨← frequency.nat?, ← documents.nat?⟩)
  | _ => none

/-- The number of documents and the terms with tallies of a record. -/
def parts? (item : Item α) : Option (Nat × List (String × Tally)) := do
  match ← item.fields? ["document_count", "words"] with
  | [documentCount, words] => return (← documentCount.nat?, ← (← words.items?).mapM part?)
  | _ => none

end NewsScoring.TermBag
