import Mathlib.Algebra.BigOperators.Group.List.Basic
import Mathlib.Data.List.Nodup
import NewsScoring.Proofs.KeyedList.Latest

/-!
# Entries that are replaced

Of entries that come in one after the other (`KeyedList.ofList`), each either is the last one of its
key or is replaced by a later one.  The list holds the former, in some order
(`perm_latest`), so that a sum over all entries is one over the list and one over the entries that
were replaced (`sum_entries_add_sum_replaced`).
-/

namespace NewsScoring.KeyedList

variable {κ β : Type} [DecidableEq κ]

/-- The entries whose keys do not come in again. -/
def latest : List (κ × β) → List (κ × β)
  | [] => []
  | entry :: rest => if entry.1 ∈ rest.map Prod.fst then latest rest else entry :: latest rest

/-- The entries whose keys come in again later. -/
def replaced : List (κ × β) → List (κ × β)
  | [] => []
  | entry :: rest => if entry.1 ∈ rest.map Prod.fst then entry :: replaced rest else replaced rest

/-! ### The latest entries -/

theorem mem_latest_iff {entries : List (κ × β)} {entry : κ × β} :
    entry ∈ latest entries ↔
      ∃ before after, entries = before ++ entry :: after ∧ entry.1 ∉ after.map Prod.fst := by
  induction entries with
  | nil => simp [latest]
  | cons first rest ih =>
    have hlater : entry ∈ latest rest → ∃ before after,
        first :: rest = before ++ entry :: after ∧ entry.1 ∉ after.map Prod.fst := by
      intro hmem
      obtain ⟨before, after, rfl, hlast⟩ := ih.1 hmem
      exact ⟨first :: before, after, rfl, hlast⟩
    rw [latest]
    constructor
    · intro hmem
      split at hmem
      · exact hlater hmem
      · next hfirst =>
        rcases List.mem_cons.1 hmem with rfl | hmem
        · exact ⟨[], rest, rfl, hfirst⟩
        · exact hlater hmem
    · rintro ⟨before, after, hsplit, hlast⟩
      cases before with
      | nil =>
        cases hsplit
        rw [if_neg hlast]
        exact List.mem_cons_self
      | cons other before =>
        cases hsplit
        have hmem := ih.2 ⟨before, after, rfl, hlast⟩
        split
        · exact hmem
        · exact List.mem_cons_of_mem _ hmem

theorem latest_sublist (entries : List (κ × β)) : (latest entries).Sublist entries := by
  induction entries with
  | nil => exact List.Sublist.refl _
  | cons entry rest ih =>
    rw [latest]
    split
    · exact ih.cons entry
    · exact ih.cons_cons entry

theorem nodup_keys_latest (entries : List (κ × β)) : ((latest entries).map Prod.fst).Nodup := by
  induction entries with
  | nil => exact List.nodup_nil
  | cons entry rest ih =>
    rw [latest]
    split
    · exact ih
    · next hnew =>
      exact List.nodup_cons.2 ⟨fun hmem => hnew (((latest_sublist rest).map _).subset hmem), ih⟩

/-- The list of entries that come in one after the other has the last entry of each key. -/
theorem perm_latest (entries : List (κ × β)) : (ofList entries).entries.Perm (latest entries) := by
  have hlisted : (ofList entries).entries.Nodup :=
    List.Nodup.of_map Prod.fst (ofList entries).nodup_keys
  have hlatest : (latest entries).Nodup := List.Nodup.of_map Prod.fst (nodup_keys_latest entries)
  refine (List.perm_ext_iff_of_nodup hlisted hlatest).2 ?_
  rintro ⟨key, value⟩
  rw [← find?_eq_some_iff, find?_ofList_eq_some_iff, mem_latest_iff]

/-! ### Entries that are replaced -/

/-- Entries are replaced only where a key comes in again. -/
theorem replaced_eq_nil_iff {entries : List (κ × β)} :
    replaced entries = [] ↔ (entries.map Prod.fst).Nodup := by
  induction entries with
  | nil => simp [replaced]
  | cons entry rest ih =>
    rw [replaced, List.map_cons, List.nodup_cons, ← ih]
    split
    · next hmem => simp [hmem]
    · next hmem => simp [hmem]

theorem replaced_map (f : β → β) (entries : List (κ × β)) :
    replaced (entries.map fun entry => (entry.1, f entry.2)) =
      (replaced entries).map fun entry => (entry.1, f entry.2) := by
  induction entries with
  | nil => rfl
  | cons entry rest ih =>
    have hkeys : (rest.map fun entry => (entry.1, f entry.2)).map Prod.fst =
        rest.map Prod.fst := by
      rw [List.map_map]
      rfl
    rw [List.map_cons, replaced, replaced, hkeys, ih]
    split <;> rfl

/-- What is summed up over all entries is shared by the list and the entries that were replaced. -/
theorem sum_entries_add_sum_replaced {M : Type} [AddCommMonoid M] (f : κ × β → M)
    (entries : List (κ × β)) :
    ((ofList entries).entries.map f).sum + ((replaced entries).map f).sum =
      (entries.map f).sum := by
  rw [((perm_latest entries).map f).sum_eq]
  induction entries with
  | nil => simp [latest, replaced]
  | cons entry rest ih =>
    rw [latest, replaced, List.map_cons, List.sum_cons, ← ih]
    split
    · rw [List.map_cons, List.sum_cons, add_left_comm]
    · rw [List.map_cons, List.sum_cons, add_assoc]

end NewsScoring.KeyedList
