import NewsScoring.Engine
import NewsScoring.Proofs.Outcome
import NewsScoring.Proofs.Vectorizer.Scoring

/-!
# Engines that were built

An engine is built if all that its configuration names can be loaded and its memo can be made
(`EngineParts.build_eq_ok_iff`).  The two ways in which this fails are told apart: what cannot be
loaded is refused (`EngineParts.build_eq_refused_iff`), and a memo that cannot be made aborts
(`EngineParts.build_eq_aborted_iff`).  An engine that was just built remembers nothing, so that its
answer about an article is the vector of that article (`Engine.documentVector_of_build`).
-/

namespace NewsScoring

namespace EngineParts

variable {parts : EngineParts} {disk : Disk} {engine : Engine}

/-! ### What a build needs -/

theorem load_eq_ok_iff {tokenizer : Tokenizer} {registry : Registry Float} :
    parts.load disk = .ok (tokenizer, registry) ↔ parts.config.validate = .ok () ∧
      parts.loadTokenizer disk = .ok tokenizer ∧ parts.loadRegistry disk = .ok registry := by
  simp only [load, bind_eq_ok_iff, pure, Except.pure, Except.ok.injEq, Prod.mk.injEq]
  constructor
  · rintro ⟨⟨⟩, hvalid, _, htokenizer, _, hregistry, rfl, rfl⟩
    exact ⟨hvalid, htokenizer, hregistry⟩
  · rintro ⟨hvalid, htokenizer, hregistry⟩
    exact ⟨(), hvalid, tokenizer, htokenizer, registry, hregistry, rfl, rfl⟩

/-- An engine is built of what was loaded, with an empty memo. -/
theorem build_eq_ok_iff : parts.build disk = .ok engine ↔
    ∃ tokenizer registry, parts.load disk = .ok (tokenizer, registry) ∧
      parts.config.memo.isOverlong = false ∧
      ⟨parts.config, ⟨tokenizer, parts.source, .empty parts.config.memo.capacity⟩, registry⟩ =
        engine := by
  unfold build
  cases parts.load disk with
  | error cause => simp
  | ok loaded =>
    rcases loaded with ⟨tokenizer, registry⟩
    cases parts.config.memo.isOverlong <;> simp

theorem build_eq_refused_iff {cause : ConfigError} :
    parts.build disk = .error (.refused cause) ↔ parts.load disk = .error cause := by
  unfold build
  cases parts.load disk with
  | error cause' => simp
  | ok loaded => cases parts.config.memo.isOverlong <;> simp

theorem build_eq_aborted_iff : parts.build disk = .error .aborted ↔
    (∃ loaded, parts.load disk = .ok loaded) ∧ parts.config.memo.isOverlong = true := by
  unfold build
  cases parts.load disk with
  | error cause => simp
  | ok loaded => cases parts.config.memo.isOverlong <;> simp

/-! ### What was built -/

/-- The registry of an engine, if it was not given, was loaded for a catalogue. -/
theorem exists_registry_eq_warmUp (hregistry : parts.registry = none)
    (h : parts.build disk = .ok engine) :
    ∃ catalogue, engine.registry = .warmUp disk parts.config.layout catalogue := by
  obtain ⟨tokenizer, registry, hload, -, rfl⟩ := build_eq_ok_iff.1 h
  have hregistryLoad := (load_eq_ok_iff.1 hload).2.2
  rw [loadRegistry, hregistry] at hregistryLoad
  obtain ⟨catalogue, -, hcatalogue⟩ := exists_of_bind_eq_ok hregistryLoad
  dsimp only at hcatalogue
  split at hcatalogue
  · cases hcatalogue
  · cases hcatalogue
    exact ⟨catalogue, rfl⟩

/-- An engine that was not given a universe has the path of one. -/
theorem source_of_build (hbackground : parts.background = none)
    (h : parts.build disk = .ok engine) :
    engine.vectorizer.source = .ofPath parts.config.effectiveUniversePath := by
  obtain ⟨tokenizer, registry, -, -, rfl⟩ := build_eq_ok_iff.1 h
  simp only [source, hbackground]

theorem find?_memo_of_build (h : parts.build disk = .ok engine) (text : String) :
    engine.vectorizer.memo.find? text = none := by
  obtain ⟨tokenizer, registry, -, -, rfl⟩ := build_eq_ok_iff.1 h
  exact DocumentMemo.find?_empty _ _ _

end EngineParts

namespace Engine

variable [Scalar Float]

/-- Of an article that it does not remember, an engine computes the vector in its universe. -/
theorem documentVector_of_find?_eq_none {engine : Engine} {document : Document}
    (h : engine.vectorizer.memo.find? document.text = none) (disk : Disk) :
    (engine.documentVector disk document).1 =
      (engine.vectorizer.source.get disk).1.bind fun u =>
        (engine.vectorizer.tokenizer.bag document).weighted u := by
  show (engine.vectorizer.answer disk document).1 = _
  rw [Vectorizer.answer_eq]
  cases (engine.vectorizer.source.get disk).1 with
  | error cause => rfl
  | ok u => exact DocumentMemo.fetch_of_find?_eq_none h _

/-- An engine that was just built answers with the vector of the article itself. -/
theorem documentVector_of_build {parts : EngineParts} {files : Disk} {engine : Engine}
    (h : parts.build files = .ok engine) (disk : Disk) (document : Document) :
    (engine.documentVector disk document).1 =
      (engine.vectorizer.source.get disk).1.bind fun u =>
        (engine.vectorizer.tokenizer.bag document).weighted u :=
  documentVector_of_find?_eq_none (EngineParts.find?_memo_of_build h _) disk

end Engine

end NewsScoring
