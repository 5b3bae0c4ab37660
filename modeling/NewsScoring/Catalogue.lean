import NewsScoring.Config.Error
import NewsScoring.Heuristic.Rules

/-!
# Catalogues

A `Catalogue` lists the features that are to be loaded, each with a number of its own.
-/

namespace NewsScoring

/-- A feature to be loaded. -/
structure CatalogueEntry (α : Type) where
  id : FeatureId
  category : Category
  title : String
  rules : Option (HeuristicRules α) := none

/-- The features to be loaded, in order. -/
structure Catalogue (α : Type) where
  version : Nat
  entries : List (CatalogueEntry α)
  /-- No two features have the same number. -/
  nodup_ids : (entries.map CatalogueEntry.id).Nodup

namespace Catalogue

variable {α : Type}

/-- The catalogue without features. -/
def empty : Catalogue α := ⟨0, [], List.nodup_nil⟩

instance : Inhabited (Catalogue α) := ⟨empty⟩

/-- The smallest number that is listed more than once. -/
def smallestRepeated? (ids : List FeatureId) : Option FeatureId :=
  (ids.filter fun id => 1 < ids.count id).min?

/-- The catalogue with the given entries; the error names the smallest number that is listed
twice. -/
def ofEntries (version : Nat) (entries : List (CatalogueEntry α)) :
    Except ConfigError (Catalogue α) :=
  let ids := entries.map CatalogueEntry.id
  if h : ids.Nodup then .ok ⟨version, entries, h⟩
  else .error (.duplicateFeatureId ((smallestRepeated? ids).getD 0))

/-- The entry with a number. -/
def find? (catalogue : Catalogue α) (id : FeatureId) : Option (CatalogueEntry α) :=
  catalogue.entries.find? (·.id == id)

/-- The number of entries. -/
def size (catalogue : Catalogue α) : Nat :=
  catalogue.entries.length

/-- Whether there are no entries. -/
def isEmpty (catalogue : Catalogue α) : Bool :=
  catalogue.entries.isEmpty

end Catalogue

end NewsScoring
