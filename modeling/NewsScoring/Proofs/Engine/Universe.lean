import NewsScoring.Proofs.Engine.Classification
import NewsScoring.Proofs.Engine.Requests

/-!
# The one universe of an engine

An engine that was not given a universe reads it from a file, beside files that may change at any
time (`Deployment`).  It does so once, for the first request that needs the vector of a document.
From then on it answers as if that universe had been given to it, and if there is none, all such
requests fail for one reason.  Requests that need no vector are answered by what the engine was
built with (`reads_universe_once`).
-/

namespace NewsScoring.Engine

/-! ### Engines beside files that change -/

/-- An engine, and the files that it finds. -/
structure Deployment where
  engine : Engine
  disk : Disk

/-- What happens to an engine and its files: the engine gets a request, its memo loses the entry
under a fingerprint, or the files change. -/
inductive Event where
  | ask (request : Request)
  | evict (key : UInt64)
  | change (disk : Disk)

/-- Whether an event is a request that needs the vector of a document. -/
def Event.NeedsVector (registry : Registry Float) : Event → Prop
  | ask request => request.NeedsVector registry
  | evict _ => False
  | change _ => False

theorem Event.NeedsVector.exists_eq_ask {registry : Registry Float} {event : Event}
    (h : event.NeedsVector registry) : ∃ request, event = .ask request := by
  cases event with
  | ask request => exact ⟨request, rfl⟩
  | evict key => exact h.elim
  | change disk => exact h.elim

/-- Whether an event is a change of the files. -/
def Event.isChange : Event → Bool
  | ask _ => false
  | evict _ => false
  | change _ => true

/-- A run without the changes of the files. -/
def undisturbed (events : List Event) : List Event :=
  events.filter fun event => !event.isChange

/-- The engine after its memo has lost the entry under a fingerprint. -/
def evict (engine : Engine) (key : UInt64) : Engine :=
  { engine with vectorizer := { engine.vectorizer with memo := engine.vectorizer.memo.evict key } }

theorem Alike.evict {engine engine' : Engine} (h : Alike engine engine') (key : UInt64) :
    Alike (engine.evict key) (engine'.evict key) where
  config_eq := h.config_eq
  registry_eq := h.registry_eq
  tokenizer_eq := h.tokenizer_eq
  memo_eq := congrArg (DocumentMemo.evict · key) h.memo_eq

section

variable [Scalar Float]

namespace Deployment

/-- The engine and the files after an event. -/
def step (deployment : Deployment) : Event → Deployment
  | .ask request => { deployment with engine := (deployment.engine.ask deployment.disk request).2 }
  | .evict key => { deployment with engine := deployment.engine.evict key }
  | .change disk => { deployment with disk }

/-- The engine and the files after a run. -/
def after (deployment : Deployment) (events : List Event) : Deployment :=
  events.foldl step deployment

/-- The requests of a run, each with its answer. -/
def answers (deployment : Deployment) : List Event → List (Request × Except ScoringError Reply)
  | [] => []
  | .ask request :: rest =>
    (request, (deployment.engine.ask deployment.disk request).1) ::
      (deployment.step (.ask request)).answers rest
  | .evict key :: rest => (deployment.step (.evict key)).answers rest
  | .change disk :: rest => (deployment.step (.change disk)).answers rest

variable {deployment : Deployment}

/-! ### What an event keeps -/

/-- An engine keeps its settings and features. -/
theorem settings_step (event : Event) :
    (deployment.step event).engine.config = deployment.engine.config ∧
      (deployment.step event).engine.registry = deployment.engine.registry := by
  cases event with
  | ask request =>
    rw [step, ask_eq_perform]
    exact ⟨rfl, rfl⟩
  | evict key => exact ⟨rfl, rfl⟩
  | change disk => exact ⟨rfl, rfl⟩

/-- A universe is not read for an event that needs no vector. -/
theorem source_step_of_not_needsVector {event : Event}
    (h : ¬event.NeedsVector deployment.engine.registry) :
    (deployment.step event).engine.vectorizer.source = deployment.engine.vectorizer.source := by
  cases event with
  | ask request =>
    obtain ⟨outcome, hask, -⟩ := exists_ask_eq h deployment.engine.config
    rw [step, hask _ _ rfl rfl]
  | evict key => rfl
  | change disk => rfl

/-- What was read of a universe stays. -/
theorem source_step_of_read {path : String} {outcome : Except ScoringError Universe}
    (h : deployment.engine.vectorizer.source = ⟨path, some outcome⟩) (event : Event) :
    (deployment.step event).engine.vectorizer.source = ⟨path, some outcome⟩ := by
  by_cases hneeds : event.NeedsVector deployment.engine.registry
  · obtain ⟨request, rfl⟩ := hneeds.exists_eq_ask
    rw [step, source_ask hneeds, h]
    rfl
  · rw [source_step_of_not_needsVector hneeds, h]

/-! ### What a run keeps -/

theorem settings_after (events : List Event) :
    (deployment.after events).engine.config = deployment.engine.config ∧
      (deployment.after events).engine.registry = deployment.engine.registry := by
  induction events generalizing deployment with
  | nil => exact ⟨rfl, rfl⟩
  | cons event rest ih =>
    exact ⟨ih.1.trans (settings_step event).1, ih.2.trans (settings_step event).2⟩

/-- A universe is not read before a request needs a vector. -/
theorem source_after_of_not_needsVector {events : List Event}
    (h : ∀ event ∈ events, ¬event.NeedsVector deployment.engine.registry) :
    (deployment.after events).engine.vectorizer.source = deployment.engine.vectorizer.source := by
  induction events generalizing deployment with
  | nil => rfl
  | cons event rest ih =>
    rw [List.forall_mem_cons] at h
    have hrest : ∀ other ∈ rest, ¬other.NeedsVector (deployment.step event).engine.registry := by
      rw [(settings_step event).2]
      exact h.2
    exact (ih hrest).trans (source_step_of_not_needsVector h.1)

theorem source_after_of_read {path : String} {outcome : Except ScoringError Universe}
    (h : deployment.engine.vectorizer.source = ⟨path, some outcome⟩) (events : List Event) :
    (deployment.after events).engine.vectorizer.source = ⟨path, some outcome⟩ := by
  induction events generalizing deployment with
  | nil => exact h
  | cons event rest ih => exact ih (source_step_of_read h event)

/-! ### The universe that a run goes by -/

/-- Whether each request of a run that needs a vector gets one and the same universe, or error. -/
def Sees (outcome : Except ScoringError Universe) : Deployment → List Event → Prop
  | _, [] => True
  | deployment, event :: rest =>
    (event.NeedsVector deployment.engine.registry →
      (deployment.engine.vectorizer.source.get deployment.disk).1 = outcome) ∧
    Sees outcome (deployment.step event) rest

theorem sees_append_iff {outcome : Except ScoringError Universe} {before rest : List Event} :
    Sees outcome deployment (before ++ rest) ↔
      Sees outcome deployment before ∧ Sees outcome (deployment.after before) rest := by
  induction before generalizing deployment with
  | nil => exact (and_iff_right trivial).symm
  | cons event before ih => exact (and_congr_right fun _ => ih).trans and_assoc.symm

theorem sees_of_read {path : String} {outcome : Except ScoringError Universe}
    (h : deployment.engine.vectorizer.source = ⟨path, some outcome⟩) (events : List Event) :
    Sees outcome deployment events := by
  induction events generalizing deployment with
  | nil => exact trivial
  | cons event rest ih =>
    refine ⟨fun _ => ?_, ih (source_step_of_read h event)⟩
    rw [h]
    rfl

/-- Where no vector is needed, nothing is seen of a universe. -/
theorem sees_of_not_needsVector {events : List Event}
    (h : ∀ event ∈ events, ¬event.NeedsVector deployment.engine.registry)
    (outcome : Except ScoringError Universe) : Sees outcome deployment events := by
  induction events generalizing deployment with
  | nil => exact trivial
  | cons event rest ih =>
    rw [List.forall_mem_cons] at h
    refine ⟨fun hneeds => absurd hneeds h.1, ih ?_⟩
    rw [(settings_step event).2]
    exact h.2

section

variable {path : String} (hsource : deployment.engine.vectorizer.source = .ofPath path)
  {before : List Event} {request : Request}
  (hbefore : ∀ event ∈ before, ¬event.NeedsVector deployment.engine.registry)
  (hneeds : request.NeedsVector deployment.engine.registry)
include hsource hbefore hneeds

/-- The first request of a run that needs a vector has the universe read. -/
theorem source_step_of_first :
    ((deployment.after before).step (.ask request)).engine.vectorizer.source =
      ⟨path, some (UniverseSource.read (deployment.after before).disk path)⟩ := by
  rw [step, source_ask (by rwa [(settings_after before).2]),
    source_after_of_not_needsVector hbefore, hsource]
  rfl

theorem source_after_of_first (rest : List Event) :
    (deployment.after (before ++ .ask request :: rest)).engine.vectorizer.source =
      ⟨path, some (UniverseSource.read (deployment.after before).disk path)⟩ := by
  rw [after, List.foldl_append]
  exact source_after_of_read (source_step_of_first hsource hbefore hneeds) rest

/-- What it reads is what all that come after it get. -/
theorem sees_of_first (rest : List Event) :
    Sees (UniverseSource.read (deployment.after before).disk path) deployment
      (before ++ .ask request :: rest) := by
  refine sees_append_iff.2 ⟨sees_of_not_needsVector hbefore _, fun _ => ?_, ?_⟩
  · rw [source_after_of_not_needsVector hbefore, hsource]
    rfl
  · exact sees_of_read (source_step_of_first hsource hbefore hneeds) rest

end

/-! ### The answers of a run -/

/-- An answer of a run is that of the engine as it is after what comes before. -/
theorem exists_of_mem_answers {events : List Event} {asked : Request × Except ScoringError Reply}
    (h : asked ∈ deployment.answers events) :
    ∃ before rest, events = before ++ .ask asked.1 :: rest ∧
      ((deployment.after before).engine.ask (deployment.after before).disk asked.1).1 =
        asked.2 := by
  induction events generalizing deployment with
  | nil => cases h
  | cons event rest ih =>
    have hlater : asked ∈ (deployment.step event).answers rest →
        ∃ before after, event :: rest = before ++ .ask asked.1 :: after ∧
          ((deployment.after before).engine.ask (deployment.after before).disk asked.1).1 =
            asked.2 := by
      intro hmem
      obtain ⟨before, after, rfl, hanswer⟩ := ih hmem
      exact ⟨event :: before, after, rfl, hanswer⟩
    cases event with
    | ask request =>
      rcases List.mem_cons.1 h with rfl | hmem
      · exact ⟨[], rest, rfl, rfl⟩
      · exact hlater hmem
    | evict key => exact hlater h
    | change disk => exact hlater h

/-- Where there is no universe, all requests that need a vector fail for the same reason. -/
theorem answers_of_sees_error {cause : ScoringError} {events : List Event}
    (hsees : Sees (.error cause) deployment events)
    {asked : Request × Except ScoringError Reply} (hasked : asked ∈ deployment.answers events)
    (hneeds : asked.1.NeedsVector deployment.engine.registry) : asked.2 = .error cause := by
  obtain ⟨before, rest, rfl, hanswer⟩ := exists_of_mem_answers hasked
  rw [← (settings_after before).2] at hneeds
  rw [← hanswer]
  exact ask_eq_error hneeds ((sees_append_iff.1 hsees).2.1 hneeds)

/-- Requests that need no vector are answered as by the engine at the start, beside whatever
files. -/
theorem answers_of_not_needsVector {events : List Event}
    {asked : Request × Except ScoringError Reply} (hasked : asked ∈ deployment.answers events)
    (hneeds : ¬asked.1.NeedsVector deployment.engine.registry) :
    (∀ disk, asked.2 = (deployment.engine.ask disk asked.1).1) ∧
      ∀ path reason, asked.2 ≠ .error (.universeUnavailable path reason) := by
  obtain ⟨before, rest, -, hanswer⟩ := exists_of_mem_answers hasked
  obtain ⟨outcome, hask, hne⟩ := exists_ask_eq hneeds deployment.engine.config
  rw [hask _ _ (settings_after before).1 (settings_after before).2] at hanswer
  subst hanswer
  exact ⟨fun disk => by rw [hask _ disk rfl rfl], hne⟩

/-- Engines that get one universe give the same answers, whatever the files of the one are. -/
theorem answers_undisturbed {other : Deployment} (h : Alike deployment.engine other.engine)
    {outcome : Except ScoringError Universe} {events : List Event}
    (hsees : Sees outcome deployment events) (hother : Sees outcome other (undisturbed events)) :
    deployment.answers events = other.answers (undisturbed events) := by
  induction events generalizing deployment other with
  | nil => rfl
  | cons event rest ih =>
    cases event with
    | ask request =>
      have hget : request.NeedsVector deployment.engine.registry →
          (deployment.engine.vectorizer.source.get deployment.disk).1 =
            (other.engine.vectorizer.source.get other.disk).1 := fun hneeds =>
        (hsees.1 hneeds).trans (hother.1 (h.registry_eq ▸ hneeds)).symm
      obtain ⟨houtcome, hlater⟩ := h.ask hget
      show _ :: _ = _ :: _
      rw [houtcome]
      exact congrArg _ (ih hlater hsees.2 hother.2)
    | evict key => exact ih (h.evict key) hsees.2 hother.2
    | change disk => exact ih h hsees.2 hother

end Deployment

end

/-! ### Engines built without a universe -/

section

variable {parts : EngineParts} {files : Disk} {engine : Engine}

/-- With a universe given, the same engine is built but for its universe. -/
theorem exists_build_eq_ok (hbuild : parts.build files = .ok engine) (u : Universe) :
    ∃ loaded, { parts with background := some u }.build files = .ok loaded ∧
      Alike engine loaded ∧ loaded.vectorizer.source = .ofUniverse u := by
  obtain ⟨tokenizer, registry, hload, hmemo, rfl⟩ := EngineParts.build_eq_ok_iff.1 hbuild
  refine ⟨⟨parts.config, ⟨tokenizer, .ofUniverse u, .empty parts.config.memo.capacity⟩, registry⟩,
    EngineParts.build_eq_ok_iff.2 ⟨tokenizer, registry, hload, hmemo, rfl⟩,
    ⟨rfl, rfl, rfl, rfl⟩, rfl⟩

theorem exists_of_read_eq_error {disk : Disk} {path : String} {cause : ScoringError}
    (h : UniverseSource.read disk path = .error cause) :
    ∃ reason, cause = .universeUnavailable path reason := by
  rw [UniverseSource.read] at h
  split at h
  · cases h
  · cases h
    exact ⟨_, rfl⟩

variable [Scalar Float]

/-- An engine that was built without a universe does not read one before a request needs the vector
of a document.  For the first that does, it reads the file as it is then, and keeps what came of it,
whatever happens to the files.  If that is a universe, all answers of the run are those of the
engine built with that universe, beside any files.  If it is an error, the error names the file, and
all requests that need a vector get it.  Requests that need none are answered alike beside any
files, and never for want of a universe. -/
theorem reads_universe_once (hbackground : parts.background = none)
    (hbuild : parts.build files = .ok engine) (disk : Disk) :
    let start : Deployment := ⟨engine, disk⟩
    let path := parts.config.effectiveUniversePath
    (∀ events : List Event, (∀ event ∈ events, ¬event.NeedsVector engine.registry) →
      (start.after events).engine.vectorizer.source = .ofPath path) ∧
    (∀ before request rest, (∀ event ∈ before, ¬event.NeedsVector engine.registry) →
      request.NeedsVector engine.registry →
      let run := before ++ .ask request :: rest
      let found := UniverseSource.read (start.after before).disk path
      (start.after run).engine.vectorizer.source = ⟨path, some found⟩ ∧
      (∀ u, found = .ok u →
        ∃ loaded, { parts with background := some u }.build files = .ok loaded ∧
          ∀ other, start.answers run = (Deployment.mk loaded other).answers (undisturbed run)) ∧
      (∀ cause, found = .error cause → (∃ reason, cause = .universeUnavailable path reason) ∧
        ∀ asked ∈ start.answers run, asked.1.NeedsVector engine.registry →
          asked.2 = .error cause)) ∧
    (∀ events, ∀ asked ∈ start.answers events, ¬asked.1.NeedsVector engine.registry →
      (∀ other, asked.2 = (engine.ask other asked.1).1) ∧
        ∀ file reason, asked.2 ≠ .error (.universeUnavailable file reason)) := by
  intro start path
  have hsource : start.engine.vectorizer.source = .ofPath path  :=
    EngineParts.source_of_build hbackground hbuild
  refine ⟨fun events hevents => ?_, fun before request rest hbefore hneeds => ?_, fun events => ?_⟩
  · exact (Deployment.source_after_of_not_needsVector hevents).trans hsource
  · intro run found
    have hsees : Deployment.Sees found start run :=
      Deployment.sees_of_first hsource hbefore hneeds rest
    refine ⟨?_, fun u hu => ?_, fun cause hcause => ⟨exists_of_read_eq_error hcause, ?_⟩⟩
    · exact Deployment.source_after_of_first hsource hbefore hneeds rest
    · obtain ⟨loaded, hloaded, halike, hloadedSource⟩ := exists_build_eq_ok hbuild u
      refine ⟨loaded, hloaded, fun other => Deployment.answers_undisturbed halike hsees ?_⟩
      rw [hu]
      exact Deployment.sees_of_read hloadedSource _
    · rw [hcause] at hsees
      exact fun asked => Deployment.answers_of_sees_error hsees
  · exact fun asked => Deployment.answers_of_not_needsVector

end

/-- Where the file of the universe is missing at first, a vector is refused although the file
appears; where it is there at first, the vector is given although the file disappears. -/
theorem reads_universe_once_farming :
    let request : Request := .documentVector { title := "Wheat" }
    let missing : Disk := fun _ => .error .missing
    (∃ reason, ∀ asked ∈ (Deployment.mk farmingEngine missing).answers
        [.ask request, .change farmingDisk, .ask request],
      asked.2 = .error (.universeUnavailable "artifacts/universe.vector" reason)) ∧
    ∃ loaded, { farmingParts with background := some ⟨0, 1, .empty⟩ }.build farmingDisk =
        .ok loaded ∧
      (Deployment.mk farmingEngine farmingDisk).answers
          [.ask request, .change missing, .ask request] =
        (Deployment.mk loaded missing).answers [.ask request, .ask request] := by
  intro request missing
  have hbackground : farmingParts.background = none := rfl
  have hneeds : request.NeedsVector farmingEngine.registry := trivial
  have hbefore : ∀ event ∈ ([] : List Event), ¬event.NeedsVector farmingEngine.registry := by simp
  constructor
  · obtain ⟨-, hread, -⟩ := reads_universe_once hbackground build_farmingParts missing
    obtain ⟨-, -, hfails⟩ := hread [] request [.change farmingDisk, .ask request] hbefore hneeds
    obtain ⟨-, hanswers⟩ := hfails _ rfl
    refine ⟨(ArtifactError.io farmingParts.config.effectiveUniversePath true).message,
      fun asked hasked => ?_⟩
    have hrequest : asked.1 = request := by
      simp only [Deployment.answers, List.mem_cons, List.not_mem_nil, or_false] at hasked
      rcases hasked with rfl | rfl <;> rfl
    exact hanswers asked hasked (hrequest ▸ hneeds)
  · obtain ⟨-, hread, -⟩ := reads_universe_once hbackground build_farmingParts farmingDisk
    obtain ⟨-, hgiven, -⟩ := hread [] request [.change missing, .ask request] hbefore hneeds
    obtain ⟨loaded, hloaded, hanswers⟩ := hgiven _ rfl
    exact ⟨loaded, hloaded, hanswers missing⟩

end NewsScoring.Engine
