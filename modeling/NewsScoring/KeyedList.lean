/-!
# Lists of values under keys

A `KeyedList` is a list of keys with values in which no key occurs twice.  Entries keep the order in
which their keys came in: `put` replaces the value of a listed key where it stands and adds a new
key at the end.  `find? (put l k v) k'` is `some v` for `k' = k` and `find? l k'` otherwise.
-/

namespace NewsScoring

/-- Keys with values, in the order in which the keys came in. -/
structure KeyedList (κ β : Type) where
  entries : List (κ × β)
  /-- No key is listed twice. -/
  nodup_keys : (entries.map Prod.fst).Nodup

namespace KeyedList

variable {κ β : Type}

/-- The list without entries. -/
def empty : KeyedList κ β := ⟨[], List.nodup_nil⟩

instance : Inhabited (KeyedList κ β) := ⟨empty⟩

theorem eq_of_entries_eq {l l' : KeyedList κ β} (h : l.entries = l'.entries) : l = l' := by
  cases l
  cases h
  rfl

/-- The listed keys, in order. -/
def keys (l : KeyedList κ β) : List κ :=
  l.entries.map Prod.fst

/-- The listed values, in order. -/
def values (l : KeyedList κ β) : List β :=
  l.entries.map Prod.snd

/-- The number of entries. -/
def size (l : KeyedList κ β) : Nat :=
  l.entries.length

/-- Whether there are no entries. -/
def isEmpty (l : KeyedList κ β) : Bool :=
  l.entries.isEmpty

variable [DecidableEq κ]

/-- The value listed under a key. -/
def find? (l : KeyedList κ β) (key : κ) : Option β :=
  (l.entries.find? (·.1 = key)).map Prod.snd

/-- Whether a key is listed. -/
def contains (l : KeyedList κ β) (key : κ) : Bool :=
  (l.find? key).isSome

/-- The entries with the value of a key replaced where it stands, or the key added at the end. -/
def putEntry (key : κ) (value : β) : List (κ × β) → List (κ × β)
  | [] => [(key, value)]
  | entry :: rest =>
    if entry.1 = key then (key, value) :: rest else entry :: putEntry key value rest

/-- The keys after `putEntry` are the keys before it, and the new key where it was not listed. -/
theorem keys_putEntry (key : κ) (value : β) (entries : List (κ × β)) :
    (putEntry key value entries).map Prod.fst =
      if key ∈ entries.map Prod.fst then entries.map Prod.fst
      else entries.map Prod.fst ++ [key] := by
  induction entries with
  | nil => simp [putEntry]
  | cons entry rest ih =>
    by_cases h : entry.1 = key
    · simp [putEntry, h]
    · have h' : ¬key = entry.1 := fun e => h e.symm
      rw [putEntry, if_neg h, List.map_cons, ih, List.map_cons]
      by_cases hmem : key ∈ rest.map Prod.fst
      · rw [if_pos hmem, if_pos (List.mem_cons_of_mem _ hmem)]
      · rw [if_neg hmem, if_neg (by simpa [h'] using hmem), List.cons_append]

/-- The list with a value put under a key. -/
def put (l : KeyedList κ β) (key : κ) (value : β) : KeyedList κ β where
  entries := putEntry key value l.entries
  nodup_keys := by
    rw [keys_putEntry]
    split
    · exact l.nodup_keys
    · next h =>
      refine List.nodup_append.2 ⟨l.nodup_keys, by simp, ?_⟩
      intro a ha b hb hab
      rw [List.mem_singleton] at hb
      exact h (hb ▸ hab ▸ ha)

@[simp]
theorem keys_put (l : KeyedList κ β) (key : κ) (value : β) :
    (l.put key value).keys = if key ∈ l.keys then l.keys else l.keys ++ [key] :=
  keys_putEntry key value l.entries

/-- Of the entries after `putEntry`, the one under the key has the new value, and each other key has
the entry it had. -/
theorem find?_putEntry (key : κ) (value : β) (entries : List (κ × β)) (other : κ) :
    (putEntry key value entries).find? (·.1 = other) =
      if other = key then some (key, value) else entries.find? (·.1 = other) := by
  induction entries with
  | nil =>
    by_cases h : other = key
    · simp [putEntry, h]
    · simp [putEntry, h, Ne.symm h]
  | cons entry rest ih =>
    by_cases hkey : entry.1 = key
    · by_cases h : other = key
      · simp [putEntry, hkey, h]
      · have hother : ¬key = other := fun e => h e.symm
        simp [putEntry, hkey, h, hother]
    · by_cases hentry : entry.1 = other
      · have h : ¬other = key := fun e => hkey (hentry.trans e)
        simp [putEntry, hentry, h]
      · simp [putEntry, hkey, hentry, ih]

/-- The entries after `putEntry` are the new one and entries of before. -/
theorem eq_or_mem_of_mem_putEntry {key : κ} {value : β} {entries : List (κ × β)} {entry : κ × β}
    (h : entry ∈ putEntry key value entries) : entry = (key, value) ∨ entry ∈ entries := by
  induction entries with
  | nil => exact .inl (List.mem_singleton.1 h)
  | cons first rest ih =>
    rw [putEntry] at h
    split at h
    · rcases List.mem_cons.1 h with h | h
      · exact .inl h
      · exact .inr (List.mem_cons_of_mem _ h)
    · rcases List.mem_cons.1 h with rfl | h
      · exact .inr List.mem_cons_self
      · exact (ih h).imp id (List.mem_cons_of_mem _)

/-- Among entries with different keys, each is the one under its key. -/
theorem find?_eq_some_of_mem {entries : List (κ × β)} (hnodup : (entries.map Prod.fst).Nodup)
    {entry : κ × β} (h : entry ∈ entries) : entries.find? (·.1 = entry.1) = some entry := by
  induction entries with
  | nil => cases h
  | cons first rest ih =>
    obtain ⟨hfirst, hrest⟩ := List.nodup_cons.1 hnodup
    rcases List.mem_cons.1 h with rfl | h
    · simp
    · have hne : ¬first.1 = entry.1 := fun e => hfirst (e ▸ List.mem_map_of_mem h)
      rw [List.find?_cons_of_neg (by simpa using hne), ih hrest h]

/-- The value of an entry is found under its key. -/
theorem find?_of_mem_entries {l : KeyedList κ β} {entry : κ × β} (h : entry ∈ l.entries) :
    l.find? entry.1 = some entry.2 := by
  rw [find?, find?_eq_some_of_mem l.nodup_keys h]
  rfl

/-- What is found under a key is listed, and what is listed is found. -/
theorem find?_eq_some_iff {l : KeyedList κ β} {key : κ} {value : β} :
    l.find? key = some value ↔ (key, value) ∈ l.entries := by
  constructor
  · intro h
    obtain ⟨entry, hentry, rfl⟩ := Option.map_eq_some_iff.1 h
    have hkey : entry.1 = key := by simpa using List.find?_some hentry
    rw [← hkey]
    exact List.mem_of_find?_eq_some hentry
  · exact find?_of_mem_entries

theorem contains_iff_mem_keys {l : KeyedList κ β} {key : κ} :
    l.contains key = true ↔ key ∈ l.keys := by
  rw [contains, Option.isSome_iff_exists, keys, List.mem_map]
  constructor
  · rintro ⟨value, hfind⟩
    exact ⟨(key, value), find?_eq_some_iff.1 hfind, rfl⟩
  · rintro ⟨⟨_, value⟩, hmem, rfl⟩
    exact ⟨value, find?_eq_some_iff.2 hmem⟩

@[simp]
theorem find?_empty (key : κ) : (empty : KeyedList κ β).find? key = none :=
  rfl

@[simp]
theorem find?_put (l : KeyedList κ β) (key : κ) (value : β) (other : κ) :
    (l.put key value).find? other = if other = key then some value else l.find? other := by
  simp only [find?, put, find?_putEntry]
  split <;> rfl

/-- The list without a key. -/
def erase (l : KeyedList κ β) (key : κ) : KeyedList κ β where
  entries := l.entries.filter (·.1 ≠ key)
  nodup_keys := List.Nodup.sublist (List.filter_sublist.map _) l.nodup_keys

@[simp]
theorem find?_erase (l : KeyedList κ β) (key other : κ) :
    (l.erase key).find? other = if other = key then none else l.find? other := by
  simp only [find?, erase, List.find?_filter]
  by_cases h : other = key
  · subst h
    rw [if_pos rfl, List.find?_eq_none.2 (by simp)]
    rfl
  · rw [if_neg h]
    congr 2
    funext entry
    by_cases hentry : entry.1 = other
    · simp [hentry, h]
    · simp [hentry]

/-- The entries put one after the other into an empty list. -/
def ofList (entries : List (κ × β)) : KeyedList κ β :=
  entries.foldl (fun l entry => l.put entry.1 entry.2) empty

/-- Keys that are not listed yet are added in their order. -/
theorem keys_foldl_put (entries : List (κ × β)) (l : KeyedList κ β)
    (h : (l.keys ++ entries.map Prod.fst).Nodup) :
    (entries.foldl (fun l entry => l.put entry.1 entry.2) l).keys =
      l.keys ++ entries.map Prod.fst := by
  induction entries generalizing l with
  | nil => simp
  | cons entry rest ih =>
    have hnew : entry.1 ∉ l.keys := fun hmem =>
      (List.nodup_append.1 h).2.2 _ hmem _ List.mem_cons_self rfl
    have hput : (l.put entry.1 entry.2).keys = l.keys ++ [entry.1] := by
      rw [keys_put, if_neg hnew]
    have hrest : ((l.put entry.1 entry.2).keys ++ rest.map Prod.fst).Nodup := by
      rw [hput, List.append_assoc]
      exact h
    rw [List.foldl_cons, ih _ hrest, hput, List.append_assoc]
    rfl

/-- Entries with different keys keep their order. -/
theorem keys_ofList {entries : List (κ × β)} (h : (entries.map Prod.fst).Nodup) :
    (ofList entries).keys = entries.map Prod.fst :=
  keys_foldl_put entries empty h

/-- The same entries in the order given by `le`. -/
def sortedBy (l : KeyedList κ β) (le : κ → κ → Bool) : KeyedList κ β where
  entries := l.entries.mergeSort fun a b => le a.1 b.1
  nodup_keys := ((List.mergeSort_perm l.entries _).map Prod.fst).nodup_iff.2 l.nodup_keys

@[simp]
theorem find?_sortedBy (l : KeyedList κ β) (le : κ → κ → Bool) (key : κ) :
    (l.sortedBy le).find? key = l.find? key := by
  refine Option.ext fun value => ?_
  rw [find?_eq_some_iff, find?_eq_some_iff, sortedBy, List.mem_mergeSort]

end KeyedList

end NewsScoring
