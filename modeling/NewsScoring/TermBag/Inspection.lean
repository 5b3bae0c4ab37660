import NewsScoring.TermBag
import NewsScoring.Text.Quoted

/-!
# Showing counted terms

The texts of counts for inspection (their sizes on one line, or a term a line) and the messages
about stored counts that are refused.
-/

namespace NewsScoring.TermBag

/-- The number of documents and of terms, on one line. -/
def inspect (bag : TermBag) : String :=
  "FrequencyVector \x7b document_count: " ++ bag.documentCount.repr ++ ", terms: " ++
    bag.terms.size.repr ++ " \x7d"

/-- The terms with their tallies, one a line. -/
def inspectLines (bag : TermBag) : String :=
  let lines := bag.toList.map fun (term, tally) =>
    "    " ++ Text.quote term ++ ": " ++ tally.frequency.repr ++ " (docs: " ++
      tally.documents.repr ++ ")\n"
  "FrequencyVector (" ++ bag.documentCount.repr ++ " documents) [\n" ++ String.join lines ++ "]"

/-- The message about stored counts that are refused. -/
def Defect.message : Defect → String
  | .rarerThanDocuments term tally =>
    "term " ++ Text.quote term ++ " occurs in " ++ tally.documents.repr ++ " documents but only " ++
      tally.frequency.repr ++ " times"
  | .moreThanAllDocuments term documents total =>
    "term " ++ Text.quote term ++ " occurs in " ++ documents.repr ++ " documents of " ++ total.repr
  | .repeated term => "term " ++ Text.quote term ++ " is listed twice"

end NewsScoring.TermBag
