import Mathlib
import NewsScoring.Proofs.Feature.Scores

/-!
# The highest score of the rules

The score of an article is the highest one that its rules offer, at least zero, and zero if a
blacklisted pattern occurs (`HeuristicFeature.isHighest_score`).  What is offered depends on the
rules as sets, and on the title and the first paragraph alone.  So rules may be given in any order
and more than once, more rules never lower a score, and more blacklisted patterns never raise one
(`HeuristicFeature.isHighest_score_and_mono`).
-/

namespace NewsScoring

open Scalar

/-! ### Numbers that are the same -/

namespace FloatOrder

open Float.Model

/-- A positive number is fixed by its position. -/
theorem eq_of_position?_eq {a b : UnpackedFloat} {p : ℤ ×ₗ ℤ ×ₗ ℤ} (ha : position? a = some p)
    (hb : position? b = some p) (hp : toLex (0, toLex (0, 0)) < p) : a = b := by
  rcases a with (_ | _) | _ | _ | ⟨_ | _, m₁, e₁, h₁⟩ <;> cases ha <;>
    rcases b with (_ | _) | _ | _ | ⟨_ | _, m₂, e₂, h₂⟩ <;>
    simp [position?, Prod.Lex.toLex_lt_toLex] at hb hp ⊢
  omega

/-- Positive numbers of which each is at most the other are the same; zeros may differ in sign. -/
theorem eq_of_le_of_ge {x y : Float} (hpos : Float.ofNat 0 < x) (hle : x ≤ y)
    (hge : y ≤ x) : x = y := by
  obtain ⟨p, hp, hlt⟩ := (float_pos_iff x).1 hpos
  obtain ⟨p', q, hp', hq, hpq⟩ := (float_le_iff x y).1 hle
  obtain ⟨q', p'', hq', hp'', hqp⟩ := (float_le_iff y x).1 hge
  obtain rfl := Option.some.inj (hp.symm.trans hp')
  obtain rfl := Option.some.inj (hp.symm.trans hp'')
  obtain rfl := Option.some.inj (hq.symm.trans hq')
  obtain rfl := le_antisymm hpq hqp
  have hunpack : x.toModel.unpack = y.toModel.unpack := eq_of_position?_eq hp hq hlt
  have hbits : x.toBits.toBitVec = y.toBits.toBitVec :=
    (UnpackedFloat.unpack_inj_of_valid x.toModel.valid y.toModel.valid).1 hunpack
  exact Float.toBits_inj.1 (UInt64.toBitVec_inj.1 hbits)

end FloatOrder

/-! ### The highest of some numbers -/

/-- Whether a number is the highest of zero and those that are offered. -/
structure IsHighest {α : Type} [Scalar α] (offered : α → Prop) (x : α) : Prop where
  eq_zero_or : x = zero ∨ zero < x ∧ offered x
  zero_le : zero ≤ x
  le_of_offered : ∀ y, offered y → y ≤ x

namespace IsHighest

section

variable {α : Type} [Scalar α] {p q : α → Prop} {x y : α}

theorem congr (hx : IsHighest p x) (h : ∀ s, p s ↔ q s) : IsHighest q x :=
  (funext fun s => propext (h s) : p = q) ▸ hx

/-- Of numbers among which others are, the highest is at least as high. -/
theorem le (hx : IsHighest p x) (hy : IsHighest q y) (h : ∀ s, p s → q s) : x ≤ y := by
  rcases hx.eq_zero_or with rfl | ⟨-, hoffered⟩
  · exact hy.zero_le
  · exact hy.le_of_offered x (h x hoffered)

variable [ScoreOrder α] [Std.LawfulOrderLT α]

/-- One more number that is not negative. -/
theorem max_of_le (hx : IsHighest p x) (hy : zero ≤ y) :
    IsHighest (fun s => p s ∨ s = y) (Scalar.max x y) := by
  have hself : x ≤ x := ScoreOrder.le_self_of_le hx.zero_le
  rw [Scalar.max]
  split
  · rename_i hlt
    obtain ⟨hle, hnot⟩ := Std.lt_iff_le_and_not_ge.1 hlt
    refine ⟨.inr ⟨?_, .inr rfl⟩, hy, ?_⟩
    · exact Std.lt_iff_le_and_not_ge.2
        ⟨hy, fun hback => hnot (ScoreOrder.le_trans hback hx.zero_le)⟩
    · rintro s (hs | rfl)
      · exact ScoreOrder.le_trans (hx.le_of_offered s hs) hle
      · exact ScoreOrder.le_self_of_le hle
  · rename_i hnot
    have hle : y ≤ x := by
      rcases ScoreOrder.le_total (ScoreOrder.le_self_of_le hy) hself with hle | hge
      · exact hle
      · by_contra hback
        exact hnot (Std.lt_iff_le_and_not_ge.2 ⟨hge, hback⟩)
    refine ⟨hx.eq_zero_or.imp_right (And.imp_right .inl), hx.zero_le, ?_⟩
    rintro s (hs | rfl)
    · exact hx.le_of_offered s hs
    · exact hle

/-- The highest of two kinds of numbers is the higher one of each. -/
theorem max (hx : IsHighest p x) (hy : IsHighest q y) :
    IsHighest (fun s => p s ∨ q s) (Scalar.max x y) := by
  have hmax := hx.max_of_le hy.zero_le
  refine ⟨?_, hmax.zero_le, ?_⟩
  · rcases hmax.eq_zero_or with hzero | ⟨hpos, hp | heq⟩
    · exact .inl hzero
    · exact .inr ⟨hpos, .inl hp⟩
    · rw [heq]
      exact hy.eq_zero_or.imp_right (And.imp_right .inr)
  · rintro s (hs | hs)
    · exact hmax.le_of_offered s (.inl hs)
    · exact ScoreOrder.le_trans (hy.le_of_offered s hs) (hmax.le_of_offered y (.inr rfl))

/-- The numbers of a list, one by one. -/
theorem foldl_max (hx : IsHighest p x) {values : List α} (h : ∀ value ∈ values, zero ≤ value) :
    IsHighest (fun s => p s ∨ s ∈ values) (values.foldl Scalar.max x) := by
  induction values generalizing p x with
  | nil => exact hx.congr (by simp)
  | cons value rest ih =>
    rw [List.forall_mem_cons] at h
    exact (ih (hx.max_of_le h.1) h.2).congr (by simp [or_assoc])

end

/-- The highest floating-point number is the same however those that are offered are listed. -/
theorem eq {p q : Float → Prop} {x y : Float} (hx : IsHighest p x) (hy : IsHighest q y)
    (h : ∀ s, p s ↔ q s) : x = y := by
  have hle : x ≤ y := hx.le hy fun s => (h s).1
  have hge : y ≤ x := hy.le hx fun s => (h s).2
  rcases hx.eq_zero_or with rfl | ⟨hpos, -⟩
  · rcases hy.eq_zero_or with rfl | ⟨hpos, -⟩
    · rfl
    · exact absurd hge (Std.lt_iff_le_and_not_ge.1 hpos).2
  · exact FloatOrder.eq_of_le_of_ge hpos hle hge

end IsHighest

/-! ### What rules offer -/

namespace HeuristicRules

variable {α : Type} (language : PatternSyntax) (rules : HeuristicRules α) (document : Document)

/-- Whether a blacklisted pattern occurs in the title or the first paragraph. -/
def Vetoes : Prop :=
  (∃ pattern ∈ rules.titleBlacklist,
    language.Occurs pattern (Unicode.lowercase document.title.toList)) ∨
  ∃ pattern ∈ rules.bodyBlacklist,
    language.Occurs pattern (Unicode.lowercase (document.paragraphs.head?.getD "").toList)

/-- Whether a score is that of a rule whose pattern occurs in the title or the first paragraph. -/
def Offers (score : α) : Prop :=
  (∃ rule ∈ rules.title, language.Occurs rule.pattern (Unicode.lowercase document.title.toList) ∧
    rule.score = score) ∨
  ∃ rule ∈ rules.body,
    language.Occurs rule.pattern (Unicode.lowercase (document.paragraphs.head?.getD "").toList) ∧
      rule.score = score

/-- Whether other rules have all of these and none of their patterns is blacklisted that is not
here. -/
structure IsExtendedBy (more : HeuristicRules α) : Prop where
  title : rules.title ⊆ more.title
  body : rules.body ⊆ more.body
  titleBlacklist : more.titleBlacklist ⊆ rules.titleBlacklist
  bodyBlacklist : more.bodyBlacklist ⊆ rules.bodyBlacklist

variable {language rules document} {more : HeuristicRules α}

theorem IsExtendedBy.vetoes (h : rules.IsExtendedBy more) (hveto : more.Vetoes language document) :
    rules.Vetoes language document :=
  hveto.imp (fun ⟨pattern, hmem, hoccurs⟩ => ⟨pattern, h.titleBlacklist hmem, hoccurs⟩)
    fun ⟨pattern, hmem, hoccurs⟩ => ⟨pattern, h.bodyBlacklist hmem, hoccurs⟩

theorem IsExtendedBy.offers (h : rules.IsExtendedBy more) {score : α}
    (hoffer : rules.Offers language document score) : more.Offers language document score :=
  hoffer.imp (fun ⟨rule, hmem, hrule⟩ => ⟨rule, h.title hmem, hrule⟩)
    fun ⟨rule, hmem, hrule⟩ => ⟨rule, h.body hmem, hrule⟩

end HeuristicRules

/-! ### Scores -/

namespace HeuristicFeature

section

variable {α : Type} [Scalar α] {language : PatternSyntax} {rules : HeuristicRules α}
  {feature : HeuristicFeature α}

theorem IsMadeOf.isVetoed_iff (h : IsMadeOf language rules feature) (document : Document) :
    feature.isVetoed (Unicode.lowercase document.title.toList)
        (Unicode.lowercase (document.paragraphs.head?.getD "").toList) = true ↔
      rules.Vetoes language document := by
  rw [isVetoed, Bool.or_eq_true, HeuristicRules.Vetoes, h.titleBlacklist.exists_occurs_iff,
    h.bodyBlacklist.exists_occurs_iff]

variable [ScoreOrder α] [Std.LawfulOrderLT α]

/-- The best match is the highest score of the rules whose patterns occur. -/
theorem isHighest_bestMatch (hzero : (zero : α) ≤ zero) {rules : List (Rule α)}
    {ready : List (ReadyRule α)} (h : List.Forall₂ (IsReady language) rules ready)
    (text : List Char) :
    IsHighest (fun s => ∃ rule ∈ rules, language.Occurs rule.pattern text ∧ rule.score = s)
      (bestMatch ready text) := by
  have hnone : IsHighest (fun _ : α => False) zero := ⟨.inl rfl, hzero, fun _ => False.elim⟩
  have hscores : ∀ value ∈ (ready.filter (·.occursIn text)).map ReadyRule.score, zero ≤ value := by
    intro value hvalue
    obtain ⟨rule, hrule, rfl⟩ := List.mem_map.1 hvalue
    have hfraction := isFraction_of_forall₂_isReady h rule (List.mem_of_mem_filter hrule)
    rw [isFraction, Bool.and_eq_true, decide_eq_true_eq] at hfraction
    exact hfraction.1
  refine (hnone.foldl_max hscores).congr fun s => ?_
  have hoffers : (∃ rule ∈ rules, language.Occurs rule.pattern text ∧ rule.score = s) ↔
      ∃ rule ∈ ready, rule.occursIn text = true ∧ rule.score = s := by
    refine exists_mem_iff_of_forall₂ h fun rule ready hready => ?_
    simp [PatternSyntax.Occurs, hready.pattern_eq, hready.score_eq]
  rw [hoffers]
  simp [and_assoc]

/-- The score of an article is the highest one that the rules offer, unless it is vetoed. -/
theorem isHighest_score (hzero : (zero : α) ≤ zero) (h : IsMadeOf language rules feature)
    (document : Document) :
    IsHighest (fun s => ¬rules.Vetoes language document ∧ rules.Offers language document s)
      (feature.score document) := by
  have hnone : IsHighest (fun _ : α => False) zero := ⟨.inl rfl, hzero, fun _ => False.elim⟩
  rw [score, scoreText, document.firstParagraph_eq]
  split
  · rename_i hvetoed
    have hveto := (h.isVetoed_iff document).1 hvetoed
    exact hnone.congr (by simp [hveto])
  · rename_i hvetoed
    rw [h.isVetoed_iff document] at hvetoed
    have hmax := (isHighest_bestMatch hzero h.title (Unicode.lowercase document.title.toList)).max
      (isHighest_bestMatch hzero h.body
        (Unicode.lowercase (document.paragraphs.head?.getD "").toList))
    exact hmax.congr fun s => by rw [and_iff_right hvetoed, HeuristicRules.Offers]

end

variable {language : PatternSyntax} {id : FeatureId} {category : Category} {title : String}
  {rules : HeuristicRules Float} {feature : HeuristicFeature Float}

/-- The score of an article is zero if it is vetoed, and otherwise the highest one that the rules
offer.  More rules and fewer blacklisted patterns never lower it, the same ones in another order or
number do not change it, and of the article it takes the title and the first paragraph alone. -/
theorem isHighest_score_and_mono
    (h : ofRules language id category title rules = .ok feature) :
    (∀ document,
      (rules.Vetoes language document → feature.score document = zero) ∧
      (¬rules.Vetoes language document →
        IsHighest (rules.Offers language document) (feature.score document))) ∧
    (∀ (id' : FeatureId) (category' : Category) (title' : String) (more : HeuristicRules Float)
      (feature' : HeuristicFeature Float),
      ofRules language id' category' title' more = .ok feature' → rules.IsExtendedBy more →
        ∀ document, feature.score document ≤ feature'.score document ∧
          (more.IsExtendedBy rules → feature.score document = feature'.score document)) ∧
    ∀ document document' : Document, document.title = document'.title →
      document.paragraphs.head? = document'.paragraphs.head? →
        feature.score document = feature.score document' := by
  have hzero : (zero : Float) ≤ zero := by decide +kernel
  obtain ⟨-, -, -, -, hmade⟩ := ofRules_eq_ok_iff.1 h
  have hscore := isHighest_score hzero hmade
  refine ⟨fun document => ⟨fun hveto => ?_, fun hveto => ?_⟩, ?_, ?_⟩
  · exact (hscore document).eq_zero_or.resolve_right fun hoffered => hoffered.2.1 hveto
  · exact (hscore document).congr fun s => and_iff_right hveto
  · intro id' category' title' more feature' h' hmore document
    obtain ⟨-, -, -, -, hmade'⟩ := ofRules_eq_ok_iff.1 h'
    have hscore' := isHighest_score hzero hmade' document
    -- What the rules offer, the others offer too, as they veto no more.
    have hoffers {rules more : HeuristicRules Float} (hmore : rules.IsExtendedBy more) (s : Float)
        (hs : ¬rules.Vetoes language document ∧ rules.Offers language document s) :
        ¬more.Vetoes language document ∧ more.Offers language document s :=
      ⟨mt hmore.vetoes hs.1, hmore.offers hs.2⟩
    exact ⟨(hscore document).le hscore' (hoffers hmore), fun hback =>
      (hscore document).eq hscore' fun s => ⟨hoffers hmore s, hoffers hback s⟩⟩
  · intro document document' htitle hparagraph
    rw [score, score, document.firstParagraph_eq, document'.firstParagraph_eq, htitle, hparagraph]

/-- Rules on launches. -/
def launchRules : HeuristicRules Float where
  title := [⟨"launch", 0.8⟩]
  body := [⟨"rocket", 0.9⟩]
  titleBlacklist := ["rumor"]
  bodyBlacklist := ["delayed"]

/-- The rules on launches, one of them repeated. -/
def repeatedRules : HeuristicRules Float :=
  { launchRules with title := [⟨"launch", 0.8⟩, ⟨"launch", 0.8⟩] }

/-- An article on a launch, in which a blacklisted pattern occurs after the first paragraph. -/
def launchDay : Document where
  title := "Launch day"
  paragraphs := ["The rocket stands ready.", "It was delayed once."]

/-- The rule for the first paragraph offers the higher score, also where a rule is repeated or the
other paragraphs are missing.  The blacklisted pattern counts only in the first paragraph. -/
theorem isHighest_score_and_mono_launch :
    ∃ once twice : HeuristicFeature Float,
      ofRules .regular 1 .manualHeuristic "launch" launchRules = .ok once ∧
      ofRules .regular 1 .manualHeuristic "launch" repeatedRules = .ok twice ∧
      once.score launchDay = 0.9 ∧ twice.score launchDay = 0.9 ∧
      once.score { title := "Launch day", paragraphs := ["The rocket stands ready."] } = 0.9 ∧
      once.score { title := "Launch day", paragraphs := ["The rocket was delayed."] } = zero := by
  obtain ⟨once, honce⟩ := isOk_eq_true_iff.1 (show (ofRules .regular 1 .manualHeuristic "launch"
    launchRules).isOk = true by decide +kernel)
  obtain ⟨twice, htwice⟩ := isOk_eq_true_iff.1 (show (ofRules .regular 1 .manualHeuristic "launch"
    repeatedRules).isOk = true by decide +kernel)
  obtain ⟨hveto, hmore, hfirst⟩ := isHighest_score_and_mono honce
  have hscore : once.score launchDay = 0.9 := by
    have hrun : (ofRules .regular 1 .manualHeuristic "launch" launchRules).toOption.map
        (·.score launchDay) = some 0.9 := by
      decide +kernel
    rw [honce] at hrun
    exact Option.some.inj hrun
  have hrules : launchRules.IsExtendedBy repeatedRules ∧ repeatedRules.IsExtendedBy launchRules :=
    ⟨⟨by simp [launchRules, repeatedRules], List.Subset.refl _, List.Subset.refl _,
      List.Subset.refl _⟩, by simp [launchRules, repeatedRules], List.Subset.refl _,
      List.Subset.refl _, List.Subset.refl _⟩
  have hsame := (hmore _ _ _ _ _ htwice hrules.1 launchDay).2 hrules.2
  have hdelayed : launchRules.Vetoes .regular
      { title := "Launch day", paragraphs := ["The rocket was delayed."] } := by
    have hany : (PatternSyntax.regular "delayed").any
        (· (Unicode.lowercase "The rocket was delayed.".toList)) = true := by
      decide +kernel
    obtain ⟨recognizer, hrecognizer, hoccurs⟩ := (Option.any_eq_true _ _).1 hany
    exact .inr ⟨"delayed", by simp [launchRules], recognizer, hrecognizer, hoccurs⟩
  exact ⟨once, twice, honce, htwice, hscore, hsame ▸ hscore, (hfirst _ _ rfl rfl).trans hscore,
    (hveto _).1 hdelayed⟩

end HeuristicFeature

end NewsScoring
