import NewsScoring.FileTree

/-!
# The places that a path leads through

A path is followed part by part, from the root or from the directory in which the program runs
(`visited`), to the place that it leads to (`place`).  A name behind a path leads one place further
(`visited_join`, `place_join`).  A path crosses a directory if one of its places lies in it.
-/

namespace NewsScoring.Path

/-! ### Places -/

/-- The place from which a path is followed in a program that runs in the given directory. -/
def origin (start : List String) (path : String) : List String :=
  if isAbsolute path then [] else start

/-- The places that a path leads through, from the first to the last. -/
def visited (start : List String) (path : String) : List (List String) :=
  (parts path).scanl FileTree.follow (origin start path)

/-- The place that a path leads to. -/
def place (start : List String) (path : String) : List String :=
  (parts path).foldl FileTree.follow (origin start path)

/-- Whether a path leads into a directory, be it to its end or on its way. -/
def Crosses (start directory : List String) (path : String) : Prop :=
  ∃ place ∈ visited start path, directory <+: place

instance (start directory : List String) (path : String) :
    Decidable (Crosses start directory path) :=
  inferInstanceAs (Decidable (∃ place ∈ visited start path, directory <+: place))

theorem origin_nil (path : String) : origin [] path = [] :=
  ite_self _

/-! ### Names -/

/-- Whether a part of a path is the name of something. -/
structure IsName (part : String) : Prop where
  slash_notMem : '/' ∉ part.toList
  isIdle_eq_false : isIdle part = false
  ne_up : part ≠ ".."

variable {name : String}

theorem IsName.follow (h : IsName name) (place : List String) :
    FileTree.follow place name = place ++ [name] := by
  rw [FileTree.follow, h.isIdle_eq_false, if_neg Bool.false_ne_true, beq_eq_false_iff_ne.2 h.ne_up,
    if_neg Bool.false_ne_true]

theorem IsName.isAbsolute_eq_false (h : IsName name) : isAbsolute name = false := by
  rw [isAbsolute, beq_eq_false_iff_ne]
  intro hhead
  exact h.slash_notMem (List.mem_of_head? hhead)

theorem isName_repr (n : Nat) : IsName n.repr := by
  have hdigit : ∀ c ∈ n.repr.toList, c.isDigit = true := by
    intro c hc
    rw [Nat.toList_repr] at hc
    exact Nat.isDigit_of_mem_toDigits (by omega) (by omega) hc
  have hlength : n.repr.toList ≠ [] := by
    rw [Nat.toList_repr]
    exact Nat.toDigits_ne_nil
  -- The parts that are no names have a dot in them or are empty.
  have hdot : ∀ text : String, '.' ∈ text.toList → n.repr ≠ text := by
    rintro text htext rfl
    exact absurd (hdigit '.' htext) (by decide)
  refine ⟨fun hslash => absurd (hdigit '/' hslash) (by decide), ?_, hdot ".." (by decide)⟩
  rw [isIdle, Bool.or_eq_false_iff, beq_eq_false_iff_ne, String.isEmpty_eq_false_iff]
  refine ⟨?_, hdot "." (by decide)⟩
  intro hempty
  rw [hempty] at hlength
  exact hlength rfl

/-! ### Paths with a name behind them -/

theorem splitSlash_ne_nil (l : List Char) : splitSlash l ≠ [] := by
  unfold splitSlash
  split
  · exact List.cons_ne_nil _ _
  · exact List.cons_ne_nil _ _
  · split <;> exact List.cons_ne_nil _ _

theorem splitSlash_append_slash (front back : List Char) :
    splitSlash (front ++ '/' :: back) = splitSlash front ++ splitSlash back := by
  induction front with
  | nil => rfl
  | cons c rest ih =>
    by_cases hslash : c = '/'
    · subst hslash
      rw [List.cons_append, splitSlash, splitSlash, ih, List.cons_append]
    · rw [List.cons_append, splitSlash, splitSlash, ih]
      · rcases hrest : splitSlash rest with _ | ⟨part, parts⟩
        · exact absurd hrest (splitSlash_ne_nil rest)
        · rfl
      · exact hslash
      · exact hslash

theorem splitSlash_eq_singleton {l : List Char} (h : '/' ∉ l) : splitSlash l = [l] := by
  induction l with
  | nil => rfl
  | cons c rest ih =>
    rw [List.mem_cons, not_or] at h
    rw [splitSlash, ih h.2]
    exact Ne.symm h.1

theorem IsName.parts_eq (h : IsName name) : parts name = [name] := by
  rw [parts, splitSlash_eq_singleton h.slash_notMem, List.map_singleton, String.ofList_toList]

/-- A name behind a path is its last part, in place of the empty part behind a slash at its end. -/
theorem exists_parts_join (path : String) (h : IsName name) :
    ∃ front, (parts path = front ∨ parts path = front ++ [""]) ∧
      parts (join path name) = front ++ [name] := by
  rw [join, h.isAbsolute_eq_false, if_neg Bool.false_ne_true]
  split
  · rename_i hend
    rw [Bool.or_eq_true, String.isEmpty_iff, beq_iff_eq] at hend
    -- Nothing stands between an empty path, or a path with a slash at its end, and the name.
    rcases hend with rfl | hslash
    · refine ⟨[], .inr rfl, ?_⟩
      rw [String.empty_append, h.parts_eq, List.nil_append]
    · obtain ⟨front, hfront⟩ := List.getLast?_eq_some_iff.1 hslash
      refine ⟨(splitSlash front).map String.ofList, .inr ?_, ?_⟩
      · rw [parts, hfront, splitSlash_append_slash, List.map_append]
        rfl
      · rw [parts, String.toList_append, hfront, List.append_assoc, List.singleton_append,
          splitSlash_append_slash, List.map_append, ← parts, h.parts_eq]
  · refine ⟨parts path, .inl rfl, ?_⟩
    have htext : (path ++ "/" ++ name).toList = path.toList ++ '/' :: name.toList := by
      rw [String.toList_append, String.toList_append, List.append_assoc]
      rfl
    rw [parts, htext, splitSlash_append_slash, List.map_append, ← parts, ← parts, h.parts_eq]

theorem origin_join (start : List String) (path : String) (h : IsName name) :
    origin start (join path name) = origin start path := by
  have habsolute : isAbsolute (join path name) = isAbsolute path := by
    rw [join, h.isAbsolute_eq_false, if_neg Bool.false_ne_true]
    by_cases hempty : path = ""
    · subst hempty
      rw [if_pos (by rfl), String.empty_append, h.isAbsolute_eq_false]
      rfl
    · have hfirst : ∀ back : String, isAbsolute (path ++ back) = isAbsolute path := by
        intro back
        rw [← String.toList_eq_nil_iff] at hempty
        rw [isAbsolute, isAbsolute, String.toList_append, List.head?_append,
          List.head?_eq_some_head hempty, Option.some_or]
      split
      · exact hfirst name
      · rw [String.append_assoc, hfirst]
  rw [origin, origin, habsolute]

theorem place_join (start : List String) (path : String) (h : IsName name) :
    place start (join path name) = place start path ++ [name] := by
  obtain ⟨front, hpath, hjoin⟩ := exists_parts_join path h
  have hplace : place start path = front.foldl FileTree.follow (origin start path) := by
    rcases hpath with hpath | hpath
    · rw [place, hpath]
    · rw [place, hpath, List.foldl_append]
      rfl
  rw [place, hjoin, origin_join start path h, List.foldl_append, ← hplace, List.foldl_cons,
    List.foldl_nil, h.follow]

/-- A name behind a path leads to one more place. -/
theorem mem_visited_join (start : List String) (path : String) (h : IsName name)
    {point : List String} :
    point ∈ visited start (join path name) ↔
      point ∈ visited start path ∨ point = place start path ++ [name] := by
  obtain ⟨front, hpath, hjoin⟩ := exists_parts_join path h
  have hconcat : ∀ part : String, (front ++ [part]).scanl FileTree.follow (origin start path) =
      front.scanl FileTree.follow (origin start path) ++
        [(front ++ [part]).foldl FileTree.follow (origin start path)] := by
    intro part
    rw [List.scanl_append, List.foldl_append]
    rfl
  -- The empty part behind a slash at the end leads to the place once more.
  have hvisited : point ∈ visited start path ↔
      point ∈ front.scanl FileTree.follow (origin start path) := by
    rcases hpath with hpath | hpath
    · rw [visited, hpath]
    · rw [visited, hpath, hconcat, List.mem_append, List.mem_singleton]
      refine or_iff_left_of_imp ?_
      rintro rfl
      rw [List.foldl_append]
      exact List.mem_of_getLast? List.getLast?_scanl
  rw [hvisited, ← place_join start path h, visited, place, origin_join start path h, hjoin, hconcat,
    List.mem_append, List.mem_singleton]

end NewsScoring.Path
