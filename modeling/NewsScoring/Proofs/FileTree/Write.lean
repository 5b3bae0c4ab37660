import NewsScoring.Proofs.FileTree.Agreement

/-!
# Reading what was written

What is written to a path is found there afterwards (`FileTree.disk_write`).  Whether a path can be
written to does not depend on what is written (`FileTree.exists_write_eq_ok`).
-/

namespace NewsScoring.FileTree

variable {tree tree' : FileTree} {place : List String}

theorem lookup_makeDirectory {point : List String} (h : tree.lookup point = some .directory) :
    (tree.makeDirectory place).lookup point = some .directory := by
  unfold makeDirectory
  split
  · unfold lookup at h ⊢
    split
    · rfl
    · rename_i hempty
      rw [if_neg hempty] at h
      rw [KeyedList.find?_put, h, ite_self]
  · exact h

/-- The directories that were made lead to the place, and those that were there stay. -/
theorem foldlM_step_of_makeDirectories {parts goal : List String}
    (h : tree.makeDirectories place parts = .ok (tree', goal)) :
    parts.foldlM tree'.step place = .ok goal ∧
      ∀ point, tree.lookup point = some .directory → tree'.lookup point = some .directory := by
  induction parts generalizing tree place with
  | nil =>
    cases h
    exact ⟨rfl, fun _ => id⟩
  | cons part rest ih =>
    rw [makeDirectories, bind_eq_ok_iff] at h
    obtain ⟨next, hstep, hrest⟩ := h
    obtain ⟨hwalk, hkeeps⟩ := ih hrest
    obtain ⟨hdirectory, hnext⟩ := step_eq_ok_iff.1 hstep
    have hkept : ∀ point, tree.lookup point = some .directory →
        tree'.lookup point = some .directory :=
      fun point hpoint => hkeeps point (lookup_makeDirectory hpoint)
    -- The first step is taken in the last tree, which has all directories of the trees before it.
    refine ⟨?_, hkept⟩
    rw [List.foldlM_cons, step_eq_ok_iff.2 ⟨hkept place hdirectory, hnext⟩]
    exact hwalk

theorem write_cases {path : String} {content : Content} (h : tree.write path content = .ok tree') :
    (path.isEmpty || Path.isAbsolute path) = false ∧ ∃ made directory place,
      tree.makeDirectories [] (Path.parts path).dropLast = .ok (made, directory) ∧
      made.step directory ((Path.parts path).getLastD "") = .ok place ∧
      made.lookup place ≠ some .directory ∧ tree' = ⟨made.entries.put place content⟩ := by
  unfold write at h
  dsimp only at h
  split at h
  · cases h
  split at h
  · cases h
  rename_i hempty habsolute
  rw [Bool.not_eq_true] at hempty habsolute
  obtain ⟨⟨made, directory⟩, hmade, h⟩ := bind_eq_ok_iff.1 h
  obtain ⟨place, hplace, h⟩ := bind_eq_ok_iff.1 h
  split at h
  · cases h
  · rename_i hfile
    cases h
    refine ⟨by rw [hempty, habsolute]; rfl, made, directory, place, hmade, hplace, ?_, rfl⟩
    exact fun hlookup => hfile hlookup

/-- Where one file can be written, any other can. -/
theorem exists_write_eq_ok {path : String} {other : Content} (h : tree.write path other = .ok tree')
    (content : Content) : ∃ written, tree.write path content = .ok written := by
  obtain ⟨hrelative, made, directory, place, hmade, hplace, hfile, -⟩ := write_cases h
  rw [Bool.or_eq_false_iff] at hrelative
  refine ⟨⟨made.entries.put place content⟩, ?_⟩
  unfold write
  dsimp only
  rw [hrelative.1, hrelative.2, if_neg Bool.false_ne_true, if_neg Bool.false_ne_true,
    bind_eq_ok_iff]
  refine ⟨_, hmade, bind_eq_ok_iff.2 ⟨place, hplace, ?_⟩⟩
  split
  · rename_i hdirectory
    exact absurd hdirectory hfile
  · rfl

theorem parts_ne_nil (path : String) : Path.parts path ≠ [] := by
  rw [Path.parts, ne_eq, List.map_eq_nil_iff]
  exact Path.splitSlash_ne_nil _

/-- What is written to a path is found there. -/
theorem disk_write {path : String} {content : Content} (h : tree.write path content = .ok tree') :
    tree'.disk path = .ok content := by
  obtain ⟨hrelative, made, directory, place, hmade, hplace, hfile, rfl⟩ := write_cases h
  have hparts :
      (Path.parts path).dropLast ++ [(Path.parts path).getLastD ""] = Path.parts path := by
    rw [List.getLastD_eq_getLast?, List.getLast?_eq_some_getLast (parts_ne_nil path),
      Option.getD_some]
    exact List.dropLast_concat_getLast _
  have hwalk : (Path.parts path).foldlM made.step [] = .ok place := by
    rw [← hparts, List.foldlM_append, (foldlM_step_of_makeDirectories hmade).1]
    show [(Path.parts path).getLastD ""].foldlM made.step directory = _
    rw [List.foldlM_cons, hplace]
    rfl
  have hend : Path.place [] path = place := by
    rw [Path.place, Path.origin_nil]
    exact (eq_foldl_of_foldlM_step hwalk).symm
  -- The file takes no directory away, because there was none at its place.
  have hkeeps : ∀ point, made.lookup point = some .directory →
      FileTree.lookup ⟨made.entries.put place content⟩ point = some .directory := by
    intro point hpoint
    have hne : point ≠ place := by
      rintro rfl
      exact hfile hpoint
    unfold lookup at hpoint ⊢
    rwa [KeyedList.find?_put, if_neg hne]
  rw [disk_eq_ok_iff]
  refine ⟨hrelative, ⟨place, foldlM_step_of_directories (fun point _ => hkeeps point) hwalk⟩, ?_⟩
  have hnonempty : ¬place.isEmpty = true := by
    intro hempty
    exact hfile (by rw [lookup, if_pos hempty])
  rw [hend, lookup, if_neg hnonempty, KeyedList.find?_put, if_pos rfl]

end NewsScoring.FileTree
