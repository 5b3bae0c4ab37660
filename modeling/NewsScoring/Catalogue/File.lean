import NewsScoring.Catalogue
import NewsScoring.Toml.Reader

/-!
# Catalogue files

A catalogue is written in TOML: a version, and a table for each feature with its number, its
category, its title and the rules that it may have.
-/

namespace NewsScoring

open Toml

/-- The largest number of a feature or a version. -/
def maxId : Nat := 0xffffffff

/-- The rule in a TOML value; it has both parts. -/
def Rule.ofToml? (value : Value) : Option (Rule Float) := do
  match ← value.fields? ["pattern", "score"] with
  | [some pattern, some score] => return ⟨← pattern.text?, ← score.float?⟩
  | _ => none

/-- The items that a reader makes of an array. -/
def listOfToml? {β : Type} (read : Value → Option β) (value : Value) : Option (List β) := do
  (← value.items?).mapM read

/-- The rules in a TOML value; each list may be left out. -/
def HeuristicRules.ofToml? (value : Value) : Option (HeuristicRules Float) := do
  match ← value.fields? ["title", "body", "title_blacklist", "body_blacklist"] with
  | [title, body, titleBlacklist, bodyBlacklist] =>
    return { title := ← Value.orElse [] (listOfToml? Rule.ofToml?) title
             body := ← Value.orElse [] (listOfToml? Rule.ofToml?) body
             titleBlacklist := ← Value.orElse [] (listOfToml? Value.text?) titleBlacklist
             bodyBlacklist := ← Value.orElse [] (listOfToml? Value.text?) bodyBlacklist }
  | _ => none

/-- The category in a TOML value. -/
def Category.ofToml? (value : Value) : Option Category :=
  value.choice?.bind Category.ofName?

/-- The catalogue entry in a TOML value; only the rules may be left out. -/
def CatalogueEntry.ofToml? (value : Value) : Option (CatalogueEntry Float) := do
  match ← value.fields? ["id", "category", "title", "rules"] with
  | [some id, some category, some title, rules] =>
    return { id := ← id.natUpTo? maxId, category := ← Category.ofToml? category
             title := ← title.text?
             rules := ← Value.orElse none (some <$> HeuristicRules.ofToml? ·) rules }
  | _ => none

namespace Catalogue

/-- The version and the entries in a TOML value. -/
def partsOfToml? (value : Value) : Option (Nat × List (CatalogueEntry Float)) := do
  match ← value.fields? ["version", "feature"] with
  | [version, features] =>
    return (← Value.orElse 0 (Value.natUpTo? maxId) version,
      ← Value.orElse [] (listOfToml? CatalogueEntry.ofToml?) features)
  | _ => none

/-- The catalogue in a text that was found at a path. -/
def ofText (path text : String) : Except ConfigError (Catalogue Float) :=
  match (Value.ofText? text).bind partsOfToml? with
  | some (version, entries) => ofEntries version entries
  | none => .error (.parse path)

/-- The catalogue in a text of its own. -/
def ofInlineText (text : String) : Except ConfigError (Catalogue Float) :=
  ofText "<inline>" text

/-- The catalogue in a file. -/
def load (disk : Disk) (path : String) : Except ConfigError (Catalogue Float) := do
  ofText path (← disk.read path)

end Catalogue

end NewsScoring
