import NewsScoring.Decimal.Notation
import NewsScoring.Document
import NewsScoring.Registry

/-!
# Reports

A `Report` tells the best scores of a document on one line of JSON.
-/

namespace NewsScoring

/-- The best scores of a document. -/
structure Report where
  id : String
  scores : Classification Float

namespace Report

/-- A digit of a number below sixteen. -/
def hexDigit (n : Nat) : Char :=
  (Nat.toDigits 16 n).headD '0'

/-- A character as it stands in a JSON string. -/
def escape (c : Char) : List Char :=
  match c with
  | '"' => ['\\', '"']
  | '\\' => ['\\', '\\']
  | '\x08' => ['\\', 'b']
  | '\t' => ['\\', 't']
  | '\n' => ['\\', 'n']
  | '\x0c' => ['\\', 'f']
  | '\r' => ['\\', 'r']
  | c =>
    if c.toNat < 0x20 then
      ['\\', 'u', '0', '0', hexDigit (c.toNat / 16), hexDigit (c.toNat % 16)]
    else [c]

/-- A text as a JSON string. -/
def quote (text : String) : String :=
  String.ofList ('"' :: text.toList.flatMap escape ++ ['"'])

/-- A number in JSON, where `null` stands for an infinity and for NaN. -/
def renderNumber (x : Float) : String :=
  if x.isFinite then Decimal.render Decimal.json x else "null"

/-- A score as a JSON object. -/
def renderScore (score : FeatureScore Float) : String :=
  "\x7b\"id\":" ++ score.id.repr ++ ",\"category\":" ++ quote score.category.name ++
    ",\"score\":" ++ renderNumber score.score ++ "\x7d"

/-- A report as a JSON object. -/
def render (report : Report) : String :=
  "\x7b\"id\":" ++ quote report.id ++ ",\"scores\":[" ++
    String.intercalate "," (report.scores.map renderScore) ++ "]\x7d"

end Report

end NewsScoring
