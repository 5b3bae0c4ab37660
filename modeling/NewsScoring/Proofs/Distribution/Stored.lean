import NewsScoring.Proofs.Artifact.RoundTrip
import NewsScoring.Proofs.Cbor.Float
import NewsScoring.Proofs.Distribution.Samples

/-!
# Reading back distributions

A distribution that is written to an artifact is read back: its item fits into bytes
(`fits_toItem`), its parts are those of the distribution (`parts?_toItem`), and they are accepted
because stored checkpoints have been accepted before, and those of samples are in order.  Values are
stored by a `FloatCode`, which has to keep them; that of the program keeps all.
-/

namespace NewsScoring.Distribution

open Cbor

variable {α : Type} [Scalar α] {code : FloatCode α} {d : Distribution α}

section

variable {n : ℕ} {checkpoints : List (Checkpoint α)}

theorem percentile_le_of_mem (h : ofCheckpoints n checkpoints = .ok d) {c : Checkpoint α}
    (hc : c ∈ d.checkpoints) : c.percentile ≤ 100 := by
  obtain ⟨-, hsound, rfl⟩ := ofCheckpoints_eq_ok_iff.1 h
  exact (isSound_iff.1 (hsound c hc)).1

/-- There is at most one checkpoint for each percentile. -/
theorem length_checkpoints_le (h : ofCheckpoints n checkpoints = .ok d) :
    d.checkpoints.length ≤ 101 := by
  have hsubset : d.checkpoints.map Checkpoint.percentile ⊆ List.range 101 := by
    intro percentile hmem
    obtain ⟨c, hc, rfl⟩ := List.mem_map.1 hmem
    exact List.mem_range.2 (Nat.lt_succ_of_le (percentile_le_of_mem h hc))
  obtain ⟨horder, -, rfl⟩ := ofCheckpoints_eq_ok_iff.1 h
  have hchain : (checkpoints.map Checkpoint.percentile).IsChain (· < ·) :=
    (List.isChain_map _).2 ((orderDefect?_eq_none_iff.1 horder).imp fun _ _ hab => hab.1)
  have hnodup : (checkpoints.map Checkpoint.percentile).Nodup :=
    (List.isChain_iff_pairwise.1 hchain).imp Nat.ne_of_lt
  have hlength := (hnodup.subperm hsubset).length_le
  rwa [List.length_map, List.length_range] at hlength

end

/-! ### Distributions as items -/

/-- Whether the counters of a distribution have 64 bits. -/
structure HasCounters (d : Distribution α) : Prop where
  sampleCount_lt : d.sampleCount < 0x10000000000000000
  count_lt : ∀ c ∈ d.checkpoints, c.count < 0x10000000000000000

omit [Scalar α] in
theorem fits_checkpointItem {c : Checkpoint α} {depth : ℕ} (hpercentile : c.percentile ≤ 100)
    (hvalue : code.Keeps c.value) (hcount : c.count < 0x10000000000000000) :
    (checkpointItem c).Fits code (depth + 1) := by
  refine Item.fits_ofFields (by simp) ?_ ?_
  · simp only [List.forall_mem_cons]
    exact ⟨by decide, by decide, by decide, fun _ h => absurd h List.not_mem_nil⟩
  · simp only [List.forall_mem_cons]
    exact ⟨.unsigned (by omega), .float hvalue, .unsigned hcount,
      fun _ h => absurd h List.not_mem_nil⟩

theorem fits_toItem {n : ℕ} {checkpoints : List (Checkpoint α)}
    (h : ofCheckpoints n checkpoints = .ok d) (hcounters : d.HasCounters)
    (hkeeps : ∀ c ∈ d.checkpoints, code.Keeps c.value) {depth : ℕ} :
    d.toItem.Fits code (depth + 3) := by
  refine Item.fits_ofFields (by simp) ?_ ?_
  · simp only [List.forall_mem_cons]
    exact ⟨by decide, by decide, fun _ h => absurd h List.not_mem_nil⟩
  · simp only [List.forall_mem_cons]
    refine ⟨.unsigned hcounters.sampleCount_lt, .list ?_ ?_, fun _ h => absurd h List.not_mem_nil⟩
    · rw [List.length_map]
      exact (length_checkpoints_le h).trans_lt (by norm_num)
    · intro item hitem
      obtain ⟨c, hc, rfl⟩ := List.mem_map.1 hitem
      exact fits_checkpointItem (percentile_le_of_mem h hc) (hkeeps c hc) (hcounters.count_lt c hc)

theorem checkpoint?_checkpointItem {c : Checkpoint α} (h : c.percentile ≤ 100) :
    checkpoint? (checkpointItem c) = some c := by
  have hnames : ["percentile", "value", "data_point_count"].Nodup := by decide
  have hfields : (checkpointItem c).fields? _ = some _ := Item.fields?_ofFields hnames
    [.unsigned c.percentile, .float c.value, .unsigned c.count] rfl
  have hpercentile : percentile? (.unsigned c.percentile : Item α) = some c.percentile :=
    if_pos (by omega)
  rw [checkpoint?, hfields]
  show (percentile? (.unsigned c.percentile : Item α)).bind (fun percentile =>
    some (⟨percentile, c.value, c.count⟩ : Checkpoint α)) = _
  rw [hpercentile, Option.bind_some]

theorem parts?_toItem (h : ∀ c ∈ d.checkpoints, c.percentile ≤ 100) :
    parts? d.toItem = some (d.sampleCount, d.checkpoints) := by
  have hnames : ["sample_count", "percentiles"].Nodup := by decide
  have hfields : d.toItem.fields? _ = some _ := Item.fields?_ofFields hnames
    [.unsigned d.sampleCount, .list (d.checkpoints.map checkpointItem)] rfl
  have hcheckpoints : (d.checkpoints.map checkpointItem).mapM checkpoint? = some d.checkpoints := by
    rw [List.mapM_map]
    have hmap := mapM_eq_pure fun c (hc : c ∈ d.checkpoints) => checkpoint?_checkpointItem (h c hc)
    rwa [List.map_id'] at hmap
  rw [parts?, hfields]
  show ((d.checkpoints.map checkpointItem).mapM checkpoint?).bind
    (fun checkpoints => some (d.sampleCount, checkpoints)) = _
  rw [hcheckpoints, Option.bind_some]

/-! ### Artifacts -/

/-- The file that holds a distribution, with its values stored by a code. -/
def file (code : FloatCode α) (d : Distribution α) : Content :=
  .compressed (d.toItem.toBytes code)

/-- The distribution in a file at a path, with the message about one that is refused. -/
def ofFile (code : FloatCode α) (message : Defect α → String) (path : String) (file : Content) :
    Except ArtifactError (Distribution α) :=
  match file with
  | .compressed payload =>
    match (Item.ofBytes? code payload).bind parts? with
    | some (sampleCount, checkpoints) =>
      (ofCheckpoints sampleCount checkpoints).mapError fun defect => .corrupt path (message defect)
    | none => .error (.decode path)
  | .plain _ | .directory => .error (.decode path)

/-- The distribution in the artifact at a path. -/
def load (code : FloatCode α) (message : Defect α → String) (disk : Disk) (path : String) :
    Except ArtifactError (Distribution α) :=
  match disk path with
  | .error absence => .error (.io path (absence == .missing))
  | .ok file => ofFile code message path file

/-- The program writes distributions by its own code for floating-point numbers. -/
theorem file_shortest (d : Distribution Float) : d.file .shortest = Artifact.ofDistribution d :=
  rfl

/-- The program reads distributions by the same code. -/
theorem load_shortest : load .shortest Defect.message = Artifact.readDistribution := by
  funext disk path
  unfold load Artifact.readDistribution Artifact.read
  cases disk path with
  | error absence => cases absence <;> rfl
  | ok file =>
    cases file with
    | plain _ | directory => rfl
    | compressed payload =>
      dsimp only [ofFile, Artifact.item?]
      cases (Item.ofBytes? .shortest payload).bind parts? with
      | none => rfl
      | some parts =>
        rw [ok_bind]
        cases hparts : ofCheckpoints parts.1 parts.2 <;> simp only [hparts] <;> rfl

/-! ### Reading back -/

/-- Whether a value is read from any disk that has its file, and its file can be written wherever
any other file can, with the value read from there afterwards. -/
structure IsReadBack {β : Type} (read : Disk → String → Except ArtifactError β) (file : Content)
    (value : β) : Prop where
  read_eq : ∀ (disk : Disk) (path : String), disk path = .ok file → read disk path = .ok value
  exists_written : ∀ (tree tree' : FileTree) (path : String) (other : Content),
    ArtifactLayout.writeArtifact tree path other = .ok tree' →
      ∃ written, ArtifactLayout.writeArtifact tree path file = .ok written ∧
        read written.disk path = .ok value

theorem writeArtifact_eq_ok_iff {tree tree' : FileTree} {path : String} {content : Content} :
    ArtifactLayout.writeArtifact tree path content = .ok tree' ↔
      tree.write path content = .ok tree' := by
  unfold ArtifactLayout.writeArtifact
  cases tree.write path content <;> simp

theorem isReadBack_of_read {β : Type} {read : Disk → String → Except ArtifactError β}
    {file : Content} {value : β}
    (h : ∀ disk path, disk path = .ok file → read disk path = .ok value) :
    IsReadBack read file value where
  read_eq := h
  exists_written := by
    intro tree tree' path other hother
    rw [writeArtifact_eq_ok_iff] at hother
    obtain ⟨written, hwritten⟩ := FileTree.exists_write_eq_ok hother file
    exact ⟨written, writeArtifact_eq_ok_iff.2 hwritten, h _ _ (FileTree.disk_write hwritten)⟩

/-- An accepted distribution is read back if the code keeps its values. -/
theorem isReadBack_of_ofCheckpoints_eq_ok {n : ℕ} {checkpoints : List (Checkpoint α)}
    (h : ofCheckpoints n checkpoints = .ok d) (hcounters : d.HasCounters)
    (hkeeps : ∀ c ∈ d.checkpoints, code.Keeps c.value) (message : Defect α → String) :
    IsReadBack (load code message) (d.file code) d := by
  refine isReadBack_of_read fun disk path hdisk => ?_
  have hitem : Item.ofBytes? code (d.toItem.toBytes code) = some d.toItem :=
    Item.ofBytes?_toBytes (fits_toItem h hcounters hkeeps)
  have hparts : parts? d.toItem = some (d.sampleCount, d.checkpoints) :=
    parts?_toItem fun c hc => percentile_le_of_mem h hc
  have haccepted : ofCheckpoints d.sampleCount d.checkpoints = .ok d := by
    obtain ⟨-, -, rfl⟩ := ofCheckpoints_eq_ok_iff.1 h
    exact h
  rw [load, hdisk]
  dsimp only [ofFile, file]
  rw [hitem, Option.bind_some, hparts]
  dsimp only
  rw [haccepted]
  rfl

theorem hasCounters_distribution {values : List Exact} (h : values.length < 0x10000000000000000) :
    (Samples.ofList values).distribution.HasCounters := by
  have hlength : (Samples.ofList values).heights.length < 0x10000000000000000 := by
    refine lt_of_le_of_lt ?_ h
    rw [Samples.heights, List.length_map, Samples.sorted, List.length_mergeSort]
    exact List.length_filter_le _ _
  constructor
  · rwa [Samples.sampleCount_distribution]
  · intro c hc
    obtain ⟨percentile, -, rfl⟩ := Samples.exists_of_mem_checkpoints hc
    exact (Samples.countUpTo_le_length (Samples.pairwise_heights values) _).trans_lt hlength

/-- Accepted distributions are read back.  Those of samples would be accepted, and are read back if
the code keeps their values. -/
theorem isReadBack_accepted_and_sampled :
    (∀ (n : ℕ) (checkpoints : List (Checkpoint Float)) (d : Distribution Float),
      ofCheckpoints n checkpoints = .ok d → d.HasCounters →
        IsReadBack Artifact.readDistribution (Artifact.ofDistribution d) d) ∧
    (∀ values : List Exact, ofCheckpoints (Samples.ofList values).distribution.sampleCount
      (Samples.ofList values).distribution.checkpoints = .ok (Samples.ofList values).distribution) ∧
    ∀ (values : List Exact) (code : FloatCode Exact) (message : Defect Exact → String),
      values.length < 0x10000000000000000 →
      (∀ c ∈ (Samples.ofList values).distribution.checkpoints, code.Keeps c.value) →
        IsReadBack (load code message) ((Samples.ofList values).distribution.file code)
          (Samples.ofList values).distribution := by
  refine ⟨fun n checkpoints d h hcounters => ?_, Samples.ofCheckpoints_distribution, ?_⟩
  · rw [← load_shortest, ← file_shortest]
    have hkeeps := fun c (_ : c ∈ d.checkpoints) => FloatCode.keeps_shortest c.value
    exact isReadBack_of_ofCheckpoints_eq_ok h hcounters hkeeps _
  · intro values code message hlength hkeeps
    exact isReadBack_of_ofCheckpoints_eq_ok (Samples.ofCheckpoints_distribution values)
      (hasCounters_distribution hlength) hkeeps message

/-! ### Exact values in floating-point formats -/

open Float.Model in
/-- The number that a floating-point number stands for; both zeros stand for the one zero. -/
noncomputable def ofFloat (x : Float) : Exact :=
  match x.toModel.unpack with
  | .notANumber => .nan
  | .infinity .positive => .number ⊤
  | .infinity .negative => .number ⊥
  | .zero _ => .ofReal 0
  | .finite .positive mantissa exponent _ => .ofReal (mantissa * 2 ^ exponent)
  | .finite .negative mantissa exponent _ => .ofReal (-(mantissa * 2 ^ exponent))

open scoped Classical in
/-- A floating-point number that stands for an exact one, or NaN where none does. -/
noncomputable def toFloat (x : Exact) : Float :=
  if h : ∃ y, ofFloat y = x then h.choose else Float.ofBits 0x7ff8000000000000

theorem ofFloat_toFloat {x : Exact} (h : ∃ y, ofFloat y = x) : ofFloat (toFloat x) = x := by
  rw [toFloat, dif_pos h]
  exact h.choose_spec

/-- Exact numbers in the shortest formats of floating-point numbers. -/
noncomputable def exactCode : FloatCode Exact where
  write x := FloatCode.shortest.write (toFloat x)
  read format bits := ofFloat (FloatCode.shortest.read format bits)

theorem keeps_exactCode {x : Exact} (h : ∃ y, ofFloat y = x) : exactCode.Keeps x where
  form_cases := (FloatCode.keeps_shortest (toFloat x)).form_cases
  read_write :=
    (congrArg ofFloat (FloatCode.keeps_shortest (toFloat x)).read_write).trans (ofFloat_toFloat h)

theorem ofFloat_quarter : ofFloat 0.25 = .ofReal (1 / 4) := by
  have hunpack : (0.25 : Float).toModel.unpack =
      .finite .positive 4503599627370496 (-54) (by decide) := rfl
  rw [ofFloat, hunpack]
  norm_num

/-- The sample one quarter has itself as its value at all percentiles. -/
theorem value_distribution_quarter {c : Checkpoint Exact}
    (hc : c ∈ (Samples.ofList [.ofReal (1 / 4)]).distribution.checkpoints) :
    c.value = .ofReal (1 / 4) := by
  have hheights : (Samples.ofList [.ofReal (1 / 4)]).heights = [1 / 4] := by
    simp [Samples.heights, Samples.sorted, Samples.ofList]
  obtain ⟨percentile, -, rfl⟩ := Samples.exists_of_mem_checkpoints hc
  rw [hheights]
  show Exact.ofReal _ = _
  simp [Samples.heightAtPercentile, Samples.between, Samples.heightAt]

/-- Checkpoints with a negative zero are read back, and so is the distribution of one sample. -/
theorem isReadBack_accepted_and_sampled_quarter :
    (∃ d : Distribution Float,
      ofCheckpoints 3 [⟨0, -0.0, 1⟩, ⟨50, 0.1, 2⟩, ⟨100, 0.25, 3⟩] = .ok d ∧
        IsReadBack Artifact.readDistribution (Artifact.ofDistribution d) d) ∧
    IsReadBack (load exactCode fun _ => "refused")
      ((Samples.ofList [.ofReal (1 / 4)]).distribution.file exactCode)
      (Samples.ofList [.ofReal (1 / 4)]).distribution := by
  constructor
  · have horder : orderDefect? ([⟨0, -0.0, 1⟩, ⟨50, 0.1, 2⟩, ⟨100, 0.25, 3⟩] :
        List (Checkpoint Float)) = none := by
      rw [orderDefect?_eq_none_iff]
      decide +kernel
    have hsound : ∀ c ∈ ([⟨0, -0.0, 1⟩, ⟨50, 0.1, 2⟩, ⟨100, 0.25, 3⟩] : List (Checkpoint Float)),
        isSound c = true := by
      decide +kernel
    have haccepted := ofCheckpoints_eq_ok_iff (n := 3) |>.2 ⟨horder, hsound, rfl⟩
    exact ⟨_, haccepted, isReadBack_accepted_and_sampled.1 _ _ _ haccepted
      ⟨by decide, by decide⟩⟩
  · refine isReadBack_accepted_and_sampled.2.2 [.ofReal (1 / 4)] exactCode _ (by decide) ?_
    intro c hc
    rw [value_distribution_quarter hc]
    exact keeps_exactCode ⟨_, ofFloat_quarter⟩

end NewsScoring.Distribution
