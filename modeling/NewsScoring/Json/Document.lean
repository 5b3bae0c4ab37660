import NewsScoring.Document
import NewsScoring.Instant.Reader
import NewsScoring.Json.Value

/-!
# Documents in JSON

A document is written as an object with the fields of `Document`, or as an array of their values in
order.  Missing fields have their defaults.  An object may have other members, which are skipped,
but names no field twice; an array has no more items than there are fields.
-/

namespace NewsScoring.Document

open Json (Value)

/-- The names of the fields, in order. -/
def fieldNames : List String :=
  ["id", "title", "description", "author", "paragraphs", "published_at"]

/-- The list of texts that an array of strings holds. -/
def texts? : Value → Option (List String)
  | .array items => items.mapM Value.text?
  | _ => none

/-- The document with one field read from a value; other names leave it as it is. -/
def withField? (document : Document) (name : String) (value : Value) : Option Document :=
  match name with
  | "id" => value.text?.map fun id => { document with id }
  | "title" => value.text?.map fun title => { document with title }
  | "description" => value.text?.map fun description => { document with description }
  | "author" => value.text?.map fun author => { document with author }
  | "paragraphs" => (texts? value).map fun paragraphs => { document with paragraphs }
  | "published_at" => do
    let publishedAt ← Instant.ofString? (← value.text?)
    return { document with publishedAt }
  | _ => some document

/-- The document with fields read from named values, one after the other. -/
def withFields? (document : Document) (fields : List (String × Value)) : Option Document :=
  fields.foldlM (fun document field => document.withField? field.1 field.2) document

/-- The members of an object under their decoded keys. -/
def decodeKeys? (members : List (List Json.StringPart × Value)) : Option (List (String × Value)) :=
  members.mapM fun (key, value) => (Json.characters? key).map fun key => (String.ofList key, value)

/-- The members that name a field. -/
def knownFields (members : List (String × Value)) : List (String × Value) :=
  members.filter fun member => fieldNames.contains member.1

/-- The document that a JSON value denotes. -/
def ofValue? : Value → Option Document
  | .object members => do
    let fields := knownFields (← decodeKeys? members)
    if (fields.map Prod.fst).eraseDups.length = fields.length then
      withFields? {} fields
    else none
  | .array items =>
    if items.length ≤ fieldNames.length then withFields? {} (fieldNames.zip items) else none
  | _ => none

/-- The document that a JSON text denotes. -/
def ofJson? (text : String) : Option Document :=
  (Value.ofText? text.toList).bind ofValue?

end NewsScoring.Document
