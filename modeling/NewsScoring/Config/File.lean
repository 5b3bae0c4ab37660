import NewsScoring.Config
import NewsScoring.Toml.Reader

/-!
# Configuration files

A configuration is written in TOML.  Every setting may be left out, unknown ones are passed over,
and the relative paths in a file are seen from its directory.
-/

namespace NewsScoring

open Toml

/-- The largest value of a setting of 32 bits. -/
def maxShort : Nat := 0xffffffff

/-- The largest value of any other whole setting. -/
def maxLong : Nat := 0x7fffffffffffffff

/-- The settings of the memo in a TOML value. -/
def MemoSettings.ofToml? (value : Value) : Option MemoSettings := do
  let standard : MemoSettings := {}
  match ← value.fields? ["capacity", "ttl_secs"] with
  | [capacity, ttl] =>
    return ⟨← Value.orElse standard.capacity (Value.natUpTo? maxLong) capacity,
      ← Value.orElse standard.ttlSeconds (Value.natUpTo? maxLong) ttl⟩
  | _ => none

/-- The settings for duplicates in a TOML value. -/
def DuplicateSettings.ofToml? (value : Value) : Option (DuplicateSettings Float) := do
  let standard : DuplicateSettings Float := .standard
  let names := ["window_hours", "similarity_threshold", "candidate_limit", "keyword_count"]
  match ← value.fields? names with
  | [window, threshold, limit, keywords] =>
    return ⟨← Value.orElse standard.windowHours (Value.natUpTo? maxShort) window,
      ← Value.orElse standard.threshold Value.float? threshold,
      ← Value.orElse standard.candidateLimit (Value.natUpTo? maxLong) limit,
      ← Value.orElse standard.keywordCount (Value.natUpTo? maxLong) keywords⟩
  | _ => none

namespace Config

/-- The number of reported features in a TOML value. -/
def topPerCategoryOfToml? (value : Value) : Option Nat := do
  match ← value.fields? ["top_per_category"] with
  | [top] => Value.orElse (standard (α := Float)).topPerCategory (Value.natUpTo? maxLong) top
  | _ => none

/-- A path in a TOML value. -/
def pathOfToml? (value : Value) : Option (Option String) :=
  value.text?.map some

/-- The configuration in a TOML value. -/
def ofToml? (value : Value) : Option (Config Float) := do
  let standard : Config Float := .standard
  let names := ["artifact_root", "universe_path", "stopwords_path", "catalogue_path",
    "document_cache", "classification", "duplicates"]
  match ← value.fields? names with
  | [root, u, stopwords, catalogue, memo, classification, duplicates] =>
    return { artifactRoot := ← Value.orElse standard.artifactRoot Value.text? root
             universePath := ← Value.orElse none pathOfToml? u
             stopwordsPath := ← Value.orElse none pathOfToml? stopwords
             cataloguePath := ← Value.orElse none pathOfToml? catalogue
             memo := ← Value.orElse standard.memo MemoSettings.ofToml? memo
             topPerCategory :=
               ← Value.orElse standard.topPerCategory topPerCategoryOfToml? classification
             duplicates :=
               ← Value.orElse standard.duplicates DuplicateSettings.ofToml? duplicates }
  | _ => none

/-- The configuration in a text that was found at a path. -/
def ofText (path text : String) : Except ConfigError (Config Float) :=
  match (Value.ofText? text).bind ofToml? with
  | none => .error (.parse path)
  | some config => do
    config.validate
    return config

/-- The configuration in a text of its own. -/
def ofInlineText (text : String) : Except ConfigError (Config Float) :=
  ofText "<inline>" text

/-- The configuration in a file, with its paths seen from the directory of the file. -/
def load (disk : Disk) (path : String) : Except ConfigError (Config Float) := do
  let config ← ofText path (← disk.read path)
  match Path.parent? path with
  | some directory => return if directory.isEmpty then config else config.relativeTo directory
  | none => return config

end Config

end NewsScoring
