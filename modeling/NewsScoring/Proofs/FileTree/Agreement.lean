import NewsScoring.Proofs.Outcome
import NewsScoring.Proofs.Path.Places

/-!
# Trees that differ in one directory

Two disks agree outside of a directory if the paths that do not lead into it have the same contents
on both (`Disk.AgreeOutside`).  A path may also lead into the directory and out of it again, and
then it depends on what directories there are in it; this matters only under a root that does so
itself.  The disks of two trees agree if the trees do (`FileTree.agreeOutside`).
-/

namespace NewsScoring

/-- Whether two disks agree outside of the directory at a place: what does not lie in it is the same
on both.  Paths that cross the directory on their way count only if the root does so. -/
def Disk.AgreeOutside (start directory : List String) (root : String) (disk disk' : Disk) : Prop :=
  ∀ path, ¬directory <+: Path.place start path →
    (Path.Crosses start directory path → Path.Crosses start directory root) →
      ∀ content, disk path = .ok content ↔ disk' path = .ok content

namespace FileTree

variable {tree tree' : FileTree} {place : List String}

theorem step_eq_ok_iff {part : String} {next : List String} :
    tree.step place part = .ok next ↔
      tree.lookup place = some .directory ∧ follow place part = next := by
  unfold step
  split
  · rename_i hlookup
    rw [hlookup, Except.ok.injEq]
    exact (and_iff_right rfl).symm
  · rename_i content hother hlookup
    rw [hlookup, Option.some.injEq]
    constructor
    · rintro ⟨⟩
    · exact fun h => absurd h.1 hother
  · rename_i hlookup
    rw [hlookup]
    constructor
    · rintro ⟨⟩
    · rintro ⟨⟨⟩, -⟩

theorem eq_foldl_of_foldlM_step {parts goal : List String}
    (h : parts.foldlM tree.step place = .ok goal) : goal = parts.foldl follow place := by
  induction parts generalizing place with
  | nil =>
    cases h
    rfl
  | cons part rest ih =>
    rw [List.foldlM_cons, bind_eq_ok_iff] at h
    obtain ⟨next, hstep, hrest⟩ := h
    rw [List.foldl_cons, (step_eq_ok_iff.1 hstep).2]
    exact ih hrest

/-- A path can be followed in another tree if all directories on the way are there. -/
theorem foldlM_step_of_directories {parts goal : List String}
    (hway : ∀ point ∈ parts.scanl follow place,
      tree.lookup point = some .directory → tree'.lookup point = some .directory)
    (h : parts.foldlM tree.step place = .ok goal) : parts.foldlM tree'.step place = .ok goal := by
  induction parts generalizing place with
  | nil => exact h
  | cons part rest ih =>
    rw [List.foldlM_cons, bind_eq_ok_iff] at h ⊢
    rw [List.scanl_cons, List.forall_mem_cons] at hway
    obtain ⟨next, hstep, hrest⟩ := h
    obtain ⟨hdirectory, rfl⟩ := step_eq_ok_iff.1 hstep
    exact ⟨_, step_eq_ok_iff.2 ⟨hway.1 hdirectory, rfl⟩, ih hway.2 hrest⟩

/-- What a path leads to stands at its place, and the path is relative. -/
theorem disk_eq_ok_iff {path : String} {content : Content} :
    tree.disk path = .ok content ↔
      (path.isEmpty || Path.isAbsolute path) = false ∧
        (∃ goal, (Path.parts path).foldlM tree.step [] = .ok goal) ∧
        tree.lookup (Path.place [] path) = some content := by
  rw [disk, bind_eq_ok_iff, resolve]
  cases path.isEmpty || Path.isAbsolute path with
  | true =>
    rw [if_pos rfl]
    constructor
    · rintro ⟨_, ⟨⟩, -⟩
    · rintro ⟨⟨⟩, -⟩
  | false =>
    rw [if_neg Bool.false_ne_true]
    constructor
    · rintro ⟨goal, hgoal, hcontent⟩
      refine ⟨rfl, ⟨goal, hgoal⟩, ?_⟩
      rw [Path.place, Path.origin_nil, ← eq_foldl_of_foldlM_step hgoal]
      split at hcontent
      · rename_i found hfound
        cases hcontent
        exact hfound
      · cases hcontent
    · rintro ⟨-, ⟨goal, hgoal⟩, hcontent⟩
      rw [Path.place, Path.origin_nil, ← eq_foldl_of_foldlM_step hgoal] at hcontent
      refine ⟨goal, hgoal, ?_⟩
      rw [hcontent]

/-- Contents that another tree has at the same place, behind directories that it has, are found
there. -/
theorem disk_of_directories {path : String} {content : Content}
    (hway : ∀ point ∈ Path.visited [] path,
      tree.lookup point = some .directory → tree'.lookup point = some .directory)
    (hplace : tree.lookup (Path.place [] path) = tree'.lookup (Path.place [] path))
    (h : tree.disk path = .ok content) : tree'.disk path = .ok content := by
  rw [disk_eq_ok_iff] at h ⊢
  obtain ⟨hrelative, ⟨goal, hgoal⟩, hcontent⟩ := h
  rw [Path.visited, Path.origin_nil] at hway
  exact ⟨hrelative, ⟨goal, foldlM_step_of_directories hway hgoal⟩, hplace ▸ hcontent⟩

/-- The disks of two trees agree outside of a directory if the trees differ in it only, and have the
same directories in case that the root leads through it. -/
theorem agreeOutside {directory : List String} {root : String}
    (houtside : ∀ point, ¬directory <+: point → tree.lookup point = tree'.lookup point)
    (hdirectories : Path.Crosses [] directory root →
      ∀ point, tree.lookup point = some .directory ↔ tree'.lookup point = some .directory) :
    Disk.AgreeOutside [] directory root tree.disk tree'.disk := by
  intro path hpath hcrosses content
  have hplace := houtside _ hpath
  -- The way may lead through the directory only if the trees have the same directories.
  have hway : ∀ point ∈ Path.visited [] path,
      (tree.lookup point = some .directory ↔ tree'.lookup point = some .directory) := by
    intro point hpoint
    by_cases hinside : directory <+: point
    · exact hdirectories (hcrosses ⟨point, hpoint, hinside⟩) point
    · rw [houtside point hinside]
  constructor
  · exact disk_of_directories (fun point hpoint => (hway point hpoint).1) hplace
  · exact disk_of_directories (fun point hpoint => (hway point hpoint).2) hplace.symm

end FileTree

end NewsScoring
