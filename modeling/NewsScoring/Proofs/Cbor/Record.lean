import Mathlib.Data.List.Nodup
import NewsScoring.Cbor.Record
import NewsScoring.Proofs.Cbor.Item
import NewsScoring.Proofs.Outcome

/-!
# Reading back records

The fields of a record are read back under their names, if these differ (`fields?_ofFields`).  The
bytes of a record are read back if those of its fields are (`fits_ofFields`).
-/

namespace NewsScoring.Cbor.Item

variable {α : Type} {code : FloatCode α}

/-- Values with their indices from a number on. -/
def numbered (start : Nat) (values : List (Item α)) : List (Nat × Item α) :=
  (values.zipIdx start).map Prod.swap

/-- The field of a number is the only one if the entries before it have lower numbers, and those
behind it higher ones. -/
theorem only?_append_cons {i : Nat} {value : Item α} {before after : List (Nat × Item α)}
    (hbefore : ∀ entry ∈ before, entry.1 < i) (hafter : ∀ entry ∈ after, i < entry.1) :
    only? i (before ++ (i, value) :: after) = some value := by
  have hother : ∀ entries : List (Nat × Item α), (∀ entry ∈ entries, entry.1 ≠ i) →
      entries.filter (·.1 == i) = [] := by
    intro entries hne
    refine List.filter_eq_nil_iff.2 fun entry hmem => ?_
    rw [beq_iff_eq]
    exact hne entry hmem
  have hfilter : (before ++ (i, value) :: after).filter (·.1 == i) = [(i, value)] := by
    rw [List.filter_append, hother before fun entry hmem => Nat.ne_of_lt (hbefore entry hmem),
      List.filter_cons, hother after fun entry hmem => Nat.ne_of_gt (hafter entry hmem)]
    simp
  rw [only?, hfilter]

/-- Numbered values are found under their numbers, by induction on the values with those before
them. -/
theorem mapM_only?_numbered {values : List (Item α)} {before : List (Nat × Item α)} {start : Nat}
    (hbefore : ∀ entry ∈ before, entry.1 < start) :
    (List.range' start values.length).mapM (only? · (before ++ numbered start values)) =
      some values := by
  induction values generalizing before start with
  | nil => rfl
  | cons value rest ih =>
    -- The first value stands between lower and higher numbers, and then it is one before the rest.
    have hafter : ∀ entry ∈ numbered (start + 1) rest, start < entry.1 := by
      intro entry hentry
      obtain ⟨⟨other, i⟩, hmem, rfl⟩ := List.mem_map.1 hentry
      exact List.le_snd_of_mem_zipIdx hmem
    have hnext : ∀ entry ∈ before ++ [(start, value)], entry.1 < start + 1 := by
      intro entry hentry
      rcases List.mem_append.1 hentry with hmem | hmem
      · exact Nat.lt_succ_of_lt (hbefore entry hmem)
      · rw [List.mem_singleton.1 hmem]
        exact Nat.lt_succ_self start
    have hrest := ih hnext
    rw [List.append_assoc, List.singleton_append] at hrest
    show ((start :: List.range' (start + 1) rest.length).mapM
      (only? · (before ++ (start, value) :: numbered (start + 1) rest))) = _
    rw [List.mapM_cons, only?_append_cons hbefore hafter, hrest]
    rfl

theorem map_idxOf_eq_numbered {fields : List (String × Item α)}
    (hnodup : (fields.map Prod.fst).Nodup) :
    fields.map (fun field => ((fields.map Prod.fst).idxOf field.1, field.2)) =
      numbered 0 (fields.map Prod.snd) := by
  refine List.ext_getElem (by simp [numbered]) fun i hleft hright => ?_
  have hi : i < (fields.map Prod.fst).length := by
    rw [List.length_map] at hleft ⊢
    exact hleft
  have hidx := hnodup.idxOf_getElem i hi
  rw [List.getElem_map] at hidx
  simp [numbered, hidx]

theorem fields?_ofFields_map {fields : List (String × Item α)}
    (hnodup : (fields.map Prod.fst).Nodup) :
    (ofFields fields).fields? (fields.map Prod.fst) = some (fields.map Prod.snd) := by
  let index (entry : Item α × Item α) : Option (Nat × Item α) := do
    return (← fieldIndex? (fields.map Prod.fst) entry.1, entry.2)
  have hentries : (fields.map fun field => (text field.1, field.2)).mapM index =
      some (numbered 0 (fields.map Prod.snd)) := by
    rw [List.mapM_map, ← map_idxOf_eq_numbered hnodup]
    exact mapM_eq_pure fun field _ => rfl
  show ((fields.map fun field => (text field.1, field.2)).mapM index).bind (fun entries =>
    (List.range (fields.map Prod.fst).length).mapM (only? · entries)) = _
  rw [hentries, Option.bind_some]
  rw [List.length_map, ← List.length_map (f := Prod.snd), List.range_eq_range']
  exact mapM_only?_numbered fun entry hmem => absurd hmem List.not_mem_nil

/-- The fields of a record are read back under their names. -/
theorem fields?_ofFields {names : List String} (hnodup : names.Nodup) (values : List (Item α))
    (hlength : names.length = values.length) :
    (ofFields (names.zip values)).fields? names = some values := by
  have hnames : (names.zip values).map Prod.fst = names :=
    List.map_fst_zip (Nat.le_of_eq hlength)
  have hvalues : (names.zip values).map Prod.snd = values :=
    List.map_snd_zip (Nat.le_of_eq hlength.symm)
  have hfields : (ofFields (names.zip values)).fields? ((names.zip values).map Prod.fst) =
      some ((names.zip values).map Prod.snd) := fields?_ofFields_map (hnames.symm ▸ hnodup)
  rwa [hnames, hvalues] at hfields

theorem fits_ofFields {depth : Nat} {fields : List (String × Item α)}
    (hlength : fields.length < 0x10000000000000000)
    (hnames : ∀ field ∈ fields, (Bytes.ofText field.1).length < 0x10000000000000000)
    (hvalues : ∀ field ∈ fields, field.2.Fits code depth) :
    (ofFields fields).Fits code (depth + 1) := by
  refine .map (by rwa [List.length_map]) ?_ ?_
  · intro entry hentry
    obtain ⟨field, hfield, rfl⟩ := List.mem_map.1 hentry
    exact .text (hnames field hfield)
  · intro entry hentry
    obtain ⟨field, hfield, rfl⟩ := List.mem_map.1 hentry
    exact hvalues field hfield

end NewsScoring.Cbor.Item
