import NewsScoring.Text.Digits
import NewsScoring.Unicode.RangeTable

/-!
# Words for code points

A `RunTable` gives each code point a word, such as the short name of its category.  It is written as
a row of runs, each a word of letters and the number of code points that have it one after the
other: `Cc32 Zs1` gives `Cc` to the first thirty-two code points and `Zs` to the next one.
`RunTable.wordAt` looks a character up by a binary search among the starts of the runs.
-/

namespace NewsScoring.Unicode

/-- Words for code points, stored as the first code point and the word of each run. -/
structure RunTable where
  starts : Array Nat
  words : Array String

namespace RunTable

/-- The word of a run as it is written, and the number of its code points. -/
def readRun (run : List Char) : String × Nat :=
  (String.ofList (run.takeWhile Char.isAlpha),
    Text.numberIn 10 ((run.dropWhile Char.isAlpha).filterMap (Text.digitValue? 10)))

/-- The table with one more run behind its runs, of which `next` is the first code point. -/
def push (table : RunTable) (next : Nat) (word : String) : RunTable :=
  ⟨table.starts.push next, table.words.push word⟩

/-- The table of runs that follow each other. -/
def ofRuns (runs : List (String × Nat)) : RunTable :=
  (runs.foldl (fun (table, next) (word, length) => (table.push next word, next + length))
    ((⟨#[], #[]⟩ : RunTable), 0)).1

/-- The table that is written in lines of runs with blanks between them. -/
def ofLines (lines : List String) : RunTable :=
  ofRuns ((lines.flatMap fun line => line.splitOn " ").map fun run => readRun run.toList)

/-- The word of a character: that of the last run that starts at or before it. -/
def wordAt (table : RunTable) (c : Char) : String :=
  table.words.getD (RangeTable.rank ⟨table.starts⟩ c.toNat - 1) ""

/-- The number of runs whose word satisfies `p`. -/
def countRuns (table : RunTable) (p : String → Bool) : Nat :=
  table.words.foldl (fun n word => if p word then n + 1 else n) 0

end RunTable

end NewsScoring.Unicode
