import NewsScoring.Proofs.Feature.Rules

/-!
# Why rules are refused

Rules can be wrong in several ways at once.  `HeuristicFeature.faults` lists all that is wrong with
them: the category, that there is no rule, the scores and the patterns of the title rules, those of
the body rules, the patterns that are blacklisted for titles, and those for bodies.  A feature is
made if the list is empty, and otherwise the error is its first entry
(`HeuristicFeature.ofRules_reports_first_fault`).
-/

namespace NewsScoring

open Scalar

/-- Whether a pattern is well-formed. -/
def PatternSyntax.Accepts (language : PatternSyntax) (pattern : String) : Prop :=
  ∃ recognizer, language pattern = some recognizer

namespace HeuristicRules

variable {α : Type}

/-- All patterns of the rules and the blacklists. -/
def patterns (rules : HeuristicRules α) : List String :=
  (rules.title ++ rules.body).map Rule.pattern ++ (rules.titleBlacklist ++ rules.bodyBlacklist)

theorem forall_mem_patterns_iff {rules : HeuristicRules α} {p : String → Prop} :
    (∀ pattern ∈ rules.patterns, p pattern) ↔
      (∀ pattern ∈ rules.title.map Rule.pattern, p pattern) ∧
      (∀ pattern ∈ rules.body.map Rule.pattern, p pattern) ∧
      (∀ pattern ∈ rules.titleBlacklist, p pattern) ∧
      ∀ pattern ∈ rules.bodyBlacklist, p pattern := by
  simp only [patterns, List.map_append, List.forall_mem_append, and_assoc]

/-- Whether a feature can be made of rules: the category is that of features by rules, there is a
rule, each score lies between zero and one, and each pattern is well-formed. -/
structure AreUsable [Scalar α] (language : PatternSyntax) (category : Category)
    (rules : HeuristicRules α) : Prop where
  category_eq : category = .manualHeuristic
  exists_rule : rules.title ≠ [] ∨ rules.body ≠ []
  score_mem : ∀ rule ∈ rules.title ++ rules.body, zero ≤ rule.score ∧ rule.score ≤ one
  accepts : ∀ pattern ∈ rules.patterns, language.Accepts pattern

end HeuristicRules

namespace HeuristicFeature

variable {α : Type} [Scalar α]

/-! ### What is wrong with rules -/

section

variable (language : PatternSyntax) (id : FeatureId)

/-- What is wrong with patterns: each that is not well-formed. -/
def patternFaults (patterns : List String) : List (FeatureError α) :=
  (patterns.filter fun pattern => (language pattern).isNone).map (.invalidPattern id)

/-- What is wrong with rules: each score that does not lie between zero and one, and then each pattern
that is not well-formed. -/
def ruleFaults (rules : List (Rule α)) : List (FeatureError α) :=
  (rules.filter fun rule => ¬(zero ≤ rule.score ∧ rule.score ≤ one)).map
    (fun rule => .scoreOutOfRange id rule.score) ++ patternFaults language id (rules.map Rule.pattern)

/-- What is wrong with the rules of a feature, and with its category. -/
def faults (category : Category) (rules : HeuristicRules α) : List (FeatureError α) :=
  (if category = .manualHeuristic then [] else [.categoryMismatch id category .heuristic]) ++
    ((if rules.title = [] ∧ rules.body = [] then [.missingRules id] else []) ++
      (ruleFaults language id rules.title ++ (ruleFaults language id rules.body ++
        (patternFaults language id rules.titleBlacklist ++
          patternFaults language id rules.bodyBlacklist))))

end

variable {language : PatternSyntax} {id : FeatureId}

/-! ### Rules without faults -/

omit [Scalar α] in
theorem patternFaults_eq_nil_iff {patterns : List String} :
    (patternFaults language id patterns : List (FeatureError α)) = [] ↔
      ∀ pattern ∈ patterns, language.Accepts pattern := by
  simp [patternFaults, PatternSyntax.Accepts, Option.ne_none_iff_exists']

theorem ruleFaults_eq_nil_iff {rules : List (Rule α)} :
    ruleFaults language id rules = [] ↔
      (∀ rule ∈ rules, zero ≤ rule.score ∧ rule.score ≤ one) ∧
        ∀ pattern ∈ rules.map Rule.pattern, language.Accepts pattern := by
  rw [ruleFaults, List.append_eq_nil_iff, patternFaults_eq_nil_iff]
  simp

/-- Nothing is wrong with rules exactly if a feature can be made of them. -/
theorem faults_eq_nil_iff {category : Category} {rules : HeuristicRules α} :
    faults language id category rules = [] ↔ rules.AreUsable language category := by
  simp only [faults, List.append_eq_nil_iff, ruleFaults_eq_nil_iff, patternFaults_eq_nil_iff]
  constructor
  · rintro ⟨hcategory, hmissing, ⟨htitle, htitlePatterns⟩, ⟨hbody, hbodyPatterns⟩, htitleBlacklist,
      hbodyBlacklist⟩
    refine ⟨?_, ?_, List.forall_mem_append.2 ⟨htitle, hbody⟩,
      HeuristicRules.forall_mem_patterns_iff.2
        ⟨htitlePatterns, hbodyPatterns, htitleBlacklist, hbodyBlacklist⟩⟩
    · by_contra hne
      simp [hne] at hcategory
    · by_contra hnone
      rw [not_or, not_not, not_not] at hnone
      simp [hnone] at hmissing
  · rintro ⟨hcategory, hexists, hscores, hpatterns⟩
    have hmissing : ¬(rules.title = [] ∧ rules.body = []) := by
      rintro ⟨htitle, hbody⟩
      exact hexists.elim (· htitle) (· hbody)
    obtain ⟨htitle, hbody⟩ := List.forall_mem_append.1 hscores
    obtain ⟨htitlePatterns, hbodyPatterns, hblacklists⟩ :=
      HeuristicRules.forall_mem_patterns_iff.1 hpatterns
    rw [if_pos hcategory, if_neg hmissing]
    exact ⟨rfl, rfl, ⟨htitle, htitlePatterns⟩, ⟨hbody, hbodyPatterns⟩, hblacklists⟩

/-! ### The first fault -/

omit [Scalar α] in
theorem patternFaults_eq_flatMap (patterns : List String) :
    (patternFaults language id patterns : List (FeatureError α)) =
      patterns.flatMap fun pattern => patternFaults language id [pattern] := by
  induction patterns with
  | nil => rfl
  | cons pattern rest ih =>
    rw [List.flatMap_cons, ← ih]
    cases hpattern : language pattern <;> simp [patternFaults, hpattern]

omit [Scalar α] in
theorem stopsAtFirst_recognizers (patterns : List String) :
    StopsAtFirst (recognizers language id patterns : Except (FeatureError α) _)
      (patternFaults language id patterns) := by
  rw [patternFaults_eq_flatMap]
  apply StopsAtFirst.mapM
  intro pattern _
  cases hpattern : language pattern with
  | none =>
    have hfaults : (patternFaults language id [pattern] : List (FeatureError α)) =
        [.invalidPattern id pattern] := by
      simp [patternFaults, hpattern]
    rw [hfaults]
    rfl
  | some recognizer =>
    have hfaults : (patternFaults language id [pattern] : List (FeatureError α)) = [] := by
      simp [patternFaults, hpattern]
    rw [hfaults]
    exact ⟨recognizer, rfl⟩

/-- The scores of rules are looked at before the patterns. -/
theorem stopsAtFirst_readyRules (rules : List (Rule α)) :
    StopsAtFirst (readyRules language id rules) (ruleFaults language id rules) := by
  have hfraction : ∀ rule : Rule α,
      (!isFraction rule.score) = decide ¬(zero ≤ rule.score ∧ rule.score ≤ one) := by
    intro rule
    simp [isFraction]
  unfold readyRules ruleFaults
  simp only [hfraction]
  cases hfind : rules.find? fun rule => decide ¬(zero ≤ rule.score ∧ rule.score ≤ one) with
  | some rule =>
    -- The first rule with a wrong score is the first one that is left when the others are dropped.
    rw [← List.head?_filter] at hfind
    obtain ⟨rest, hrest⟩ := List.head?_eq_some_iff.1 hfind
    rw [hrest]
    rfl
  | none =>
    rw [← List.head?_filter, List.head?_eq_none_iff] at hfind
    rw [hfind, List.map_nil, List.nil_append, ← List.append_nil (patternFaults _ _ _)]
    apply (stopsAtFirst_recognizers _).bind
    intro found _
    exact ⟨_, rfl⟩

theorem stopsAtFirst_ofRules (language : PatternSyntax) (id : FeatureId) (category : Category)
    (title : String) (rules : HeuristicRules α) :
    StopsAtFirst (ofRules language id category title rules)
      (faults language id category rules) := by
  unfold ofRules faults
  by_cases hcategory : category = .manualHeuristic
  · rw [if_neg (not_not.2 hcategory), if_pos hcategory, List.nil_append]
    by_cases hmissing : rules.title = [] ∧ rules.body = []
    · have hempty : rules.isEmpty = true := by simp [HeuristicRules.isEmpty, hmissing]
      rw [if_pos hempty, if_pos hmissing]
      rfl
    · have hempty : ¬rules.isEmpty = true := by simpa [HeuristicRules.isEmpty] using hmissing
      rw [if_neg hempty, if_neg hmissing, List.nil_append]
      -- The four lists are made ready in the order in which their faults stand.
      apply (stopsAtFirst_readyRules rules.title).bind
      intro titleRules _
      apply (stopsAtFirst_readyRules rules.body).bind
      intro bodyRules _
      apply (stopsAtFirst_recognizers rules.titleBlacklist).bind
      intro titleBlacklist _
      rw [← List.append_nil (patternFaults _ _ rules.bodyBlacklist)]
      apply (stopsAtFirst_recognizers rules.bodyBlacklist).bind
      intro bodyBlacklist _
      exact ⟨_, rfl⟩
  · rw [if_pos hcategory, if_neg hcategory]
    rfl

/-- A feature is made exactly if the category is that of features by rules, there is a rule for the
title or the body, each score lies between zero and one, as NaN does not, and each pattern is
well-formed.  If no feature is made, the error is the first of the faults. -/
theorem ofRules_reports_first_fault (language : PatternSyntax) (id : FeatureId)
    (category : Category) (title : String) (rules : HeuristicRules α) :
    ((∃ feature, ofRules language id category title rules = .ok feature) ↔
      rules.AreUsable language category) ∧
    ∀ cause, ofRules language id category title rules = .error cause ↔
      (faults language id category rules).head? = some cause := by
  have hfirst := stopsAtFirst_ofRules language id category title rules
  constructor
  · rw [hfirst.exists_eq_ok_iff, faults_eq_nil_iff]
  · intro cause
    exact hfirst.eq_error_iff

/-- A score that is NaN is found before a pattern that is not well-formed, wherever they stand. -/
example : (faults .regular 1 .manualHeuristic
    { title := [⟨"(", 0.5⟩, ⟨"wheat", 0.0 / 0.0⟩] } : List (FeatureError Float)).head? =
      some (.scoreOutOfRange 1 (0.0 / 0.0)) := by
  decide +kernel

end HeuristicFeature

end NewsScoring
