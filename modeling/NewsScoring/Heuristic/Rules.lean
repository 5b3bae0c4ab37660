/-!
# Rules for scores

A rule gives its score to a text in which its pattern occurs.  `HeuristicRules` are the rules of a
feature for the title and the body of an article, with patterns that rule a title or a body out.
-/

namespace NewsScoring

/-- A pattern with the score of the texts in which it occurs. -/
structure Rule (α : Type) where
  pattern : String
  score : α

/-- The rules of a feature. -/
structure HeuristicRules (α : Type) where
  title : List (Rule α) := []
  body : List (Rule α) := []
  /-- Patterns of titles that get no score. -/
  titleBlacklist : List String := []
  /-- Patterns of bodies that get no score. -/
  bodyBlacklist : List String := []

/-- Whether no rule could give a score. -/
def HeuristicRules.isEmpty {α : Type} (rules : HeuristicRules α) : Bool :=
  rules.title.isEmpty && rules.body.isEmpty

end NewsScoring
