import Mathlib.Data.List.Basic
import Mathlib.Data.List.Induction
import NewsScoring.KeyedList

/-!
# The latest values in the order of the first ones

The list of entries that come in one after the other (`KeyedList.ofList`) has each key once: with
the value of its last entry (`find?_ofList_eq_some_iff`), and in the order in which the keys came in
first (`exists_entry_before`).
-/

namespace NewsScoring.KeyedList

variable {κ β : Type} [DecidableEq κ]

/-! ### Places of entries -/

section

variable {key : κ} {value : β} {entries : List (κ × β)}

/-- What stands in a list with one more element. -/
theorem getElem?_concat_eq_some_iff {γ : Type} {entries : List γ} {x y : γ} {i : ℕ} :
    (entries ++ [x])[i]? = some y ↔ i = entries.length ∧ y = x ∨ entries[i]? = some y := by
  rcases Nat.lt_trichotomy i entries.length with hlt | rfl | hgt
  · rw [List.getElem?_append_left hlt]
    simp [Nat.ne_of_lt hlt]
  · rw [List.getElem?_concat_length]
    simp [eq_comm]
  · have hnone : entries[i]? = none := List.getElem?_eq_none (Nat.le_of_lt hgt)
    have hnone' : (entries ++ [x])[i]? = none :=
      List.getElem?_eq_none (by rw [List.length_append, List.length_singleton]; omega)
    rw [hnone, hnone']
    simp [Nat.ne_of_gt hgt]

/-- A new key comes in at the end. -/
theorem putEntry_of_notMem (h : key ∉ entries.map Prod.fst) :
    putEntry key value entries = entries ++ [(key, value)] := by
  induction entries with
  | nil => rfl
  | cons entry rest ih =>
    rw [List.map_cons, List.mem_cons, not_or] at h
    rw [putEntry, if_neg (Ne.symm h.1), ih h.2, List.cons_append]

/-- The value of a listed key changes where it stands, and nothing else does. -/
theorem getElem?_putEntry {i : ℕ} {old : β} (hnodup : (entries.map Prod.fst).Nodup)
    (h : entries[i]? = some (key, old)) (j : ℕ) :
    (putEntry key value entries)[j]? = if j = i then some (key, value) else entries[j]? := by
  induction entries generalizing i j with
  | nil => simp at h
  | cons entry rest ih =>
    obtain ⟨hentry, hrest⟩ := List.nodup_cons.1 hnodup
    cases i with
    | zero =>
      obtain rfl : entry = (key, old) := by simpa using h
      rw [putEntry, if_pos rfl]
      cases j <;> simp
    | succ i =>
      have hget : rest[i]? = some (key, old) := h
      have hne : entry.1 ≠ key := by
        rintro rfl
        exact hentry (List.mem_map.2 ⟨_, List.mem_of_getElem? hget, rfl⟩)
      rw [putEntry, if_neg hne]
      cases j with
      | zero => simp
      | succ j => simpa using ih hrest hget j

end

/-! ### Entries one after the other -/

theorem ofList_concat (entries : List (κ × β)) (entry : κ × β) :
    ofList (entries ++ [entry]) = (ofList entries).put entry.1 entry.2 := by
  rw [ofList, List.foldl_append]
  rfl

theorem mem_keys_ofList {entries : List (κ × β)} {key : κ} :
    key ∈ (ofList entries).keys ↔ key ∈ entries.map Prod.fst := by
  induction entries using List.reverseRecOn with
  | nil => exact Iff.rfl
  | append_singleton entries entry ih =>
    rw [ofList_concat, keys_put, List.map_append, List.mem_append, ← ih]
    split
    · next hmem =>
      refine ⟨.inl, ?_⟩
      rintro (h | h)
      · exact h
      · rwa [List.mem_singleton.1 h]
    · exact List.mem_append

/-- Entries with different keys are listed as they are. -/
theorem entries_ofList {entries : List (κ × β)} (h : (entries.map Prod.fst).Nodup) :
    (ofList entries).entries = entries := by
  induction entries using List.reverseRecOn with
  | nil => rfl
  | append_singleton entries entry ih =>
    rw [List.map_append, List.nodup_append] at h
    have hnew : entry.1 ∉ (ofList entries).keys := fun hmem =>
      h.2.2 _ (mem_keys_ofList.1 hmem) _ List.mem_cons_self rfl
    have hput : ((ofList entries).put entry.1 entry.2).entries =
        (ofList entries).entries ++ [(entry.1, entry.2)] := putEntry_of_notMem hnew
    rw [ofList_concat, hput, ih h.1]

theorem size_put (l : KeyedList κ β) (key : κ) (value : β) :
    (l.put key value).size = if key ∈ l.keys then l.size else l.size + 1 := by
  have hkeys : ∀ l : KeyedList κ β, l.size = l.keys.length := by
    intro l
    rw [size, keys, List.length_map]
  rw [hkeys, hkeys, keys_put]
  split
  · rfl
  · rw [List.length_append, List.length_singleton]

/-- A key has the value of its last entry. -/
theorem find?_ofList_eq_some_iff {entries : List (κ × β)} {key : κ} {value : β} :
    (ofList entries).find? key = some value ↔
      ∃ before after, entries = before ++ (key, value) :: after ∧ key ∉ after.map Prod.fst := by
  induction entries using List.reverseRecOn with
  | nil => simp [ofList]
  | append_singleton entries entry ih =>
    rw [ofList_concat, find?_put]
    constructor
    · intro h
      split at h
      · next hkey =>
        obtain rfl : entry.2 = value := Option.some.inj h
        exact ⟨entries, [], by rw [hkey], by simp⟩
      · next hkey =>
        obtain ⟨before, after, rfl, hlast⟩ := ih.1 h
        refine ⟨before, after ++ [entry], by simp, ?_⟩
        simpa [hkey] using hlast
    · rintro ⟨before, after, hsplit, hlast⟩
      -- Either the new entry is the one of the key, or it has another key.
      rcases List.eq_nil_or_concat' after with rfl | ⟨after, last, rfl⟩
      · obtain ⟨-, hentry⟩ := List.append_inj' hsplit rfl
        obtain rfl : entry = (key, value) := List.singleton_inj.1 hentry
        rw [if_pos rfl]
      · have hsplit' : entries ++ [entry] = (before ++ (key, value) :: after) ++ [last] := by
          rw [hsplit, List.append_assoc, List.cons_append]
        obtain ⟨hentries, hentry⟩ := List.append_inj' hsplit' rfl
        obtain rfl : entry = last := List.singleton_inj.1 hentry
        rw [List.map_append, List.mem_append, not_or] at hlast
        rw [if_neg (by simpa using hlast.2)]
        exact ih.2 ⟨before, after, hentries, hlast.1⟩

/-- Of two keys, the one that stands first came in before all entries of the other. -/
theorem exists_entry_before {entries : List (κ × β)} {i j : ℕ} (hij : i < j) {a b : κ}
    (ha : (ofList entries).keys[i]? = some a) (hb : (ofList entries).keys[j]? = some b) :
    ∃ before value after, entries = before ++ (a, value) :: after ∧ b ∉ before.map Prod.fst := by
  induction entries using List.reverseRecOn with
  | nil => simp [ofList, empty, keys] at ha
  | append_singleton entries entry ih =>
    -- Keys that were listed before the last entry keep what the induction hypothesis says of them.
    have hextend : (ofList entries).keys[i]? = some a → (ofList entries).keys[j]? = some b →
        ∃ before value after, entries ++ [entry] = before ++ (a, value) :: after ∧
          b ∉ before.map Prod.fst := by
      intro ha hb
      obtain ⟨before, value, after, rfl, hbefore⟩ := ih ha hb
      exact ⟨before, value, after ++ [entry], by simp, hbefore⟩
    rw [ofList_concat, keys_put] at ha hb
    split at ha
    · next hmem =>
      rw [if_pos hmem] at hb
      exact hextend ha hb
    · next hmem =>
      rw [if_neg hmem] at hb
      -- The key of the new entry is the last one, so that `a` was listed already.
      have hj := (List.getElem?_eq_some_iff.1 hb).1
      rw [List.length_append, List.length_singleton] at hj
      have ha' : (ofList entries).keys[i]? = some a := by
        rwa [List.getElem?_append_left (by omega)] at ha
      rcases Nat.lt_or_ge j (ofList entries).keys.length with hlt | hge
      · rw [List.getElem?_append_left hlt] at hb
        exact hextend ha' hb
      · obtain rfl : entry.1 = b := by
          obtain rfl : j = (ofList entries).keys.length := by omega
          simpa using hb
        have hmemA : a ∈ entries.map Prod.fst := mem_keys_ofList.1 (List.mem_of_getElem? ha')
        obtain ⟨⟨a', value⟩, hentry, rfl⟩ := List.mem_map.1 hmemA
        obtain ⟨before, after, rfl⟩ := List.append_of_mem hentry
        refine ⟨before, value, after ++ [entry], by simp, fun hbefore => hmem ?_⟩
        rw [mem_keys_ofList, List.map_append]
        exact List.mem_append_left _ hbefore

end NewsScoring.KeyedList
