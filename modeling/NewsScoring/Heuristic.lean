import NewsScoring.Document
import NewsScoring.Feature.Error
import NewsScoring.Heuristic.Rules
import NewsScoring.Pattern
import NewsScoring.Scalar
import NewsScoring.Unicode.Lowercase

/-!
# Features by rules

A `HeuristicFeature` scores an article by rules.  The score is zero if a blacklisted pattern occurs
in the title or in the body, and otherwise the largest score of the rules whose patterns occur,
where the body is the first paragraph.  What a pattern means is a parameter, a `PatternSyntax`.
-/

namespace NewsScoring

/-- Tells of a text whether a pattern occurs in it. -/
abbrev Recognizer := List Char → Bool

/-- The meaning of the patterns that are well-formed. -/
abbrev PatternSyntax := String → Option Recognizer

/-- Patterns as regular expressions. -/
def PatternSyntax.regular : PatternSyntax :=
  fun pattern => (Pattern.compile? pattern).map fun e text => e.occursIn text

variable {α : Type} [Scalar α]

open Scalar

/-- A recognized pattern with its score. -/
structure ReadyRule (α : Type) where
  occursIn : Recognizer
  score : α

/-- A feature that scores articles by rules. -/
structure HeuristicFeature (α : Type) where
  id : FeatureId
  title : String
  titleRules : List (ReadyRule α)
  bodyRules : List (ReadyRule α)
  titleBlacklist : List Recognizer
  bodyBlacklist : List Recognizer

namespace HeuristicFeature

/-! ### Making features -/

/-- The meaning of several patterns, or the first that is not well-formed. -/
def recognizers (language : PatternSyntax) (id : FeatureId) (patterns : List String) :
    Except (FeatureError α) (List Recognizer) :=
  patterns.mapM fun pattern =>
    match language pattern with
    | some recognizer => .ok recognizer
    | none => .error (.invalidPattern id pattern)

/-- Rules ready for use: every score is between zero and one, and every pattern well-formed. -/
def readyRules (language : PatternSyntax) (id : FeatureId) (rules : List (Rule α)) :
    Except (FeatureError α) (List (ReadyRule α)) :=
  match rules.find? (!isFraction ·.score) with
  | some rule => .error (.scoreOutOfRange id rule.score)
  | none => do
    let recognizers ← recognizers language id (rules.map Rule.pattern)
    return (recognizers.zip rules).map fun (recognizer, rule) => ⟨recognizer, rule.score⟩

/-- The feature of the given rules. -/
def ofRules (language : PatternSyntax) (id : FeatureId) (category : Category) (title : String)
    (rules : HeuristicRules α) : Except (FeatureError α) (HeuristicFeature α) :=
  if category ≠ .manualHeuristic then .error (.categoryMismatch id category .heuristic)
  else if rules.isEmpty then .error (.missingRules id)
  else do
    let titleRules ← readyRules language id rules.title
    let bodyRules ← readyRules language id rules.body
    let titleBlacklist ← recognizers language id rules.titleBlacklist
    let bodyBlacklist ← recognizers language id rules.bodyBlacklist
    return { id, title, titleRules, bodyRules, titleBlacklist, bodyBlacklist }

/-! ### Scores -/

/-- The largest score of the rules whose patterns occur in a text, and at least zero. -/
def bestMatch (rules : List (ReadyRule α)) (text : List Char) : α :=
  ((rules.filter (·.occursIn text)).map ReadyRule.score).foldl Scalar.max zero

/-- Whether a blacklisted pattern occurs in the title or in the body. -/
def isVetoed (feature : HeuristicFeature α) (title body : List Char) : Bool :=
  feature.titleBlacklist.any (· title) || feature.bodyBlacklist.any (· body)

/-- The score of a title and a body. -/
def scoreText (feature : HeuristicFeature α) (title body : List Char) : α :=
  if feature.isVetoed title body then zero
  else Scalar.max (bestMatch feature.titleRules title) (bestMatch feature.bodyRules body)

/-- The score of an article: that of its title and its first paragraph in lower case. -/
def score (feature : HeuristicFeature α) (document : Document) : α :=
  feature.scoreText (Unicode.lowercase document.title.toList)
    (Unicode.lowercase document.firstParagraph.toList)

end HeuristicFeature

end NewsScoring
