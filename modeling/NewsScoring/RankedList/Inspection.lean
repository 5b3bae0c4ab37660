import NewsScoring.RankedList
import NewsScoring.Text.Quoted

/-!
# Showing a ranked list

Two texts of a ranked list for inspection: its pairs of item and score on one line, or one pair a
line under a heading with the capacity.  Items are quoted; the text of a score is a parameter.
-/

namespace NewsScoring.RankedList

variable {ν : Type} (showScore : ν → String)

/-- The pairs on one line. -/
def inspect (list : RankedList String ν) : String :=
  let pairs := list.toList.map fun (item, score) =>
    "(" ++ Text.quote item ++ ", " ++ showScore score ++ ")"
  "[" ++ String.intercalate ", " pairs ++ "]"

/-- The pairs one a line. -/
def inspectLines (list : RankedList String ν) : String :=
  let lines := list.toList.map fun (item, score) =>
    "    " ++ Text.quote item ++ ": " ++ showScore score ++ "\n"
  "TopList (" ++ list.capacity.repr ++ ") [\n" ++ String.join lines ++ "]"

end NewsScoring.RankedList
