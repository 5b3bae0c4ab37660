import NewsScoring.Heuristic
import NewsScoring.Proofs.Outcome

/-!
# Rules that are accepted

A feature is made of rules if there is one for the title or the body, each score is a fraction, and
each pattern is well-formed (`HeuristicFeature.ofRules_eq_ok_iff`).  The feature keeps the meaning
of each pattern beside the score of its rule, so that what is found in a text can be said of the
rules themselves (`AreMeanings.exists_occurs_iff`, `exists_mem_iff_of_forall₂`).
-/

namespace NewsScoring

/-- Whether a pattern is well-formed and occurs in a text. -/
def PatternSyntax.Occurs (language : PatternSyntax) (pattern : String) (text : List Char) : Prop :=
  ∃ recognizer, language pattern = some recognizer ∧ recognizer text = true

/-- Of two lists whose elements belong together, one has a certain element exactly if the other has
one that belongs to it. -/
theorem exists_mem_iff_of_forall₂ {β γ : Type} {related : β → γ → Prop} {l : List β} {m : List γ}
    {p : β → Prop} {q : γ → Prop} (h : List.Forall₂ related l m)
    (hrelated : ∀ x y, related x y → (p x ↔ q y)) : (∃ x ∈ l, p x) ↔ ∃ y ∈ m, q y := by
  induction h with
  | nil => simp
  | cons hxy _ ih => simp [hrelated _ _ hxy, ih]

namespace HeuristicFeature

variable {α : Type} {language : PatternSyntax} {id : FeatureId}

/-! ### Patterns -/

/-- Whether recognizers are the meanings of patterns. -/
def AreMeanings (language : PatternSyntax) : List String → List Recognizer → Prop :=
  List.Forall₂ fun pattern recognizer => language pattern = some recognizer

/-- Patterns are accepted if all of them are well-formed. -/
theorem recognizers_eq_ok_iff {patterns : List String} {found : List Recognizer} :
    (recognizers language id patterns : Except (FeatureError α) _) = .ok found ↔
      AreMeanings language patterns found := by
  rw [recognizers, mapM_eq_ok_iff, AreMeanings]
  refine iff_of_eq (congrArg (List.Forall₂ · patterns found) ?_)
  funext pattern recognizer
  cases language pattern <;> simp

/-- A pattern of a list occurs in a text exactly if one of the meanings recognizes the text. -/
theorem AreMeanings.exists_occurs_iff {patterns : List String} {found : List Recognizer}
    (h : AreMeanings language patterns found) (text : List Char) :
    (∃ pattern ∈ patterns, language.Occurs pattern text) ↔ found.any (· text) = true := by
  rw [List.any_eq_true]
  refine exists_mem_iff_of_forall₂ h fun pattern recognizer hpattern => ?_
  simp [PatternSyntax.Occurs, hpattern]

/-! ### Rules -/

variable [Scalar α] {rules : List (Rule α)} {ready : List (ReadyRule α)}

/-- Whether a rule is ready for use: it has the meaning of the pattern and the score, which is a
fraction. -/
structure IsReady (language : PatternSyntax) (rule : Rule α) (ready : ReadyRule α) : Prop where
  pattern_eq : language rule.pattern = some ready.occursIn
  score_eq : ready.score = rule.score
  isFraction_score : Scalar.isFraction rule.score = true

omit [Scalar α] in
/-- The scores stand beside the meanings of the patterns. -/
theorem exists_areMeanings_iff :
    (∃ found, AreMeanings language (rules.map Rule.pattern) found ∧
      (found.zip rules).map (fun (recognizer, rule) => ⟨recognizer, rule.score⟩) = ready) ↔
    List.Forall₂ (fun rule ready => language rule.pattern = some ready.occursIn ∧
      ready.score = rule.score) rules ready := by
  induction rules generalizing ready with
  | nil => simp [AreMeanings, eq_comm]
  | cons rule rest ih =>
    simp only [AreMeanings, List.map_cons, List.forall₂_cons_left_iff] at ih ⊢
    simp only [← ih]
    constructor
    · rintro ⟨_, ⟨recognizer, found, hpattern, hfound, rfl⟩, rfl⟩
      exact ⟨⟨recognizer, rule.score⟩, _, ⟨hpattern, rfl⟩, ⟨found, hfound, rfl⟩, rfl⟩
    · rintro ⟨⟨recognizer, score⟩, _, ⟨hpattern, rfl⟩, ⟨found, hfound, rfl⟩, rfl⟩
      exact ⟨_, ⟨recognizer, found, hpattern, hfound, rfl⟩, rfl⟩

theorem forall₂_isReady_iff : List.Forall₂ (IsReady language) rules ready ↔
    (∀ rule ∈ rules, Scalar.isFraction rule.score = true) ∧
      ∃ found, AreMeanings language (rules.map Rule.pattern) found ∧
        (found.zip rules).map (fun (recognizer, rule) => ⟨recognizer, rule.score⟩) = ready := by
  rw [exists_areMeanings_iff, ← List.forall₂_and_left]
  refine iff_of_eq (congrArg (List.Forall₂ · rules ready) ?_)
  funext rule ready
  refine propext ⟨fun h => ⟨h.isFraction_score, h.pattern_eq, h.score_eq⟩, ?_⟩
  rintro ⟨hfraction, hpattern, hscore⟩
  exact ⟨hpattern, hscore, hfraction⟩

/-- Rules are accepted if all their scores are fractions and all their patterns well-formed. -/
theorem readyRules_eq_ok_iff :
    readyRules language id rules = .ok ready ↔ List.Forall₂ (IsReady language) rules ready := by
  rw [forall₂_isReady_iff, readyRules]
  cases hfind : rules.find? (!Scalar.isFraction ·.score) with
  | some rule =>
    have hmem := List.mem_of_find?_eq_some hfind
    have hscore := List.find?_some hfind
    constructor
    · intro h
      cases h
    · rintro ⟨hfractions, -⟩
      rw [hfractions rule hmem] at hscore
      cases hscore
  | none =>
    have hfractions : ∀ rule ∈ rules, Scalar.isFraction rule.score = true := by
      simpa using List.find?_eq_none.1 hfind
    simp only [bind_eq_ok_iff, recognizers_eq_ok_iff, pure, Except.pure, Except.ok.injEq]
    rw [and_iff_right hfractions]

/-! ### Features -/

/-- Whether a feature has the rules and the blacklisted patterns of given ones. -/
structure IsMadeOf (language : PatternSyntax) (rules : HeuristicRules α)
    (feature : HeuristicFeature α) : Prop where
  title : List.Forall₂ (IsReady language) rules.title feature.titleRules
  body : List.Forall₂ (IsReady language) rules.body feature.bodyRules
  titleBlacklist : AreMeanings language rules.titleBlacklist feature.titleBlacklist
  bodyBlacklist : AreMeanings language rules.bodyBlacklist feature.bodyBlacklist

/-- A feature is made if there are rules and all that is given is accepted. -/
theorem ofRules_eq_ok_iff {category : Category} {title : String} {rules : HeuristicRules α}
    {feature : HeuristicFeature α} :
    ofRules language id category title rules = .ok feature ↔
      category = .manualHeuristic ∧ rules.isEmpty = false ∧ feature.id = id ∧
        feature.title = title ∧ IsMadeOf language rules feature := by
  rw [ofRules]
  split
  · rename_i hcategory
    simp [hcategory]
  · rename_i hcategory
    split
    · rename_i hempty
      simp [hempty]
    · rename_i hempty
      rw [Bool.not_eq_true] at hempty
      rw [and_iff_right (Decidable.not_not.1 hcategory), and_iff_right hempty]
      simp only [bind_eq_ok_iff, readyRules_eq_ok_iff, recognizers_eq_ok_iff, pure, Except.pure,
        Except.ok.injEq]
      constructor
      · rintro ⟨titleRules, htitle, bodyRules, hbody, titleBlacklist, htitleBlacklist,
          bodyBlacklist, hbodyBlacklist, rfl⟩
        exact ⟨rfl, rfl, htitle, hbody, htitleBlacklist, hbodyBlacklist⟩
      · rintro ⟨rfl, rfl, hmade⟩
        exact ⟨_, hmade.title, _, hmade.body, _, hmade.titleBlacklist, _, hmade.bodyBlacklist, rfl⟩

end HeuristicFeature

end NewsScoring
