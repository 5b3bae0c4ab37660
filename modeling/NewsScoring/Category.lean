/-!
# Categories of features

A feature scores how much an article belongs to an industry, how much it shows an intent, or how
well it fits rules written by hand.  Features of the first two categories compare vectors; only
those of the last have rules.
-/

namespace NewsScoring

/-- What a feature is about. -/
inductive Category where
  | industry
  | intent
  | manualHeuristic
  deriving DecidableEq, Repr, Inhabited

namespace Category

/-- The categories, in the order of reports. -/
def all : List Category := [.industry, .intent, .manualHeuristic]

/-- The name of a category, which is also that of its directory. -/
def name : Category → String
  | .industry => "industry"
  | .intent => "intent"
  | .manualHeuristic => "manual_heuristic"

/-- The category of a name; `topic` is another name for an intent. -/
def ofName? (name : String) : Option Category :=
  match name with
  | "industry" => some .industry
  | "intent" => some .intent
  | "topic" => some .intent
  | "manual_heuristic" => some .manualHeuristic
  | _ => none

/-- Whether the features of a category compare vectors. -/
def isVectorBacked (category : Category) : Bool :=
  category != .manualHeuristic

end Category

/-- The number of a feature. -/
abbrev FeatureId := Nat

end NewsScoring
