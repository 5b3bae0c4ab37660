import NewsScoring.Bytes
import NewsScoring.Document
import NewsScoring.KeyedList
import NewsScoring.Scalar

/-!
# Remembering what was computed for a document

A `DocumentMemo` keeps a value for each document it has been asked about, under a fingerprint of the
text of the document.  Each entry also has the text itself, and a document with the same fingerprint
but another text is not taken for it.  Errors are not kept.  A memo without capacity keeps nothing.

How long an entry is kept, and which one makes room for another, is left open: entries may be
dropped at any time (`evict`, `clear`), and what holds of a memo holds whichever they are.
-/

namespace NewsScoring

/-- A short number for a text; different texts may have the same. -/
abbrev Fingerprint := String → UInt64

/-- The bytes of a text as the digits of a number, cut to 64 bits. -/
def Fingerprint.standard : Fingerprint :=
  fun text => (Bytes.ofText text).foldl (fun sum byte => sum * 1099511628211 + byte.toUInt64) 0

namespace Document

/-- What stands between two fields in the text of a document. -/
def fieldSeparator : Char := '\x1f'

/-- What stands between two paragraphs in the text of a document. -/
def paragraphSeparator : Char := '\x1e'

/-- The text of a document: the fields that are scored, with separators between them. -/
def text (document : Document) : String :=
  document.title.push fieldSeparator ++ document.description.push fieldSeparator ++
    document.author.push fieldSeparator ++
    String.intercalate (String.singleton paragraphSeparator) document.paragraphs

end Document

/-- Values for documents that were asked about. -/
structure DocumentMemo (β : Type) where
  fingerprint : Fingerprint
  /-- A capacity of zero means that nothing is kept. -/
  capacity : Nat
  /-- Texts with their values, under the fingerprints of the texts. -/
  entries : KeyedList UInt64 (String × β)
  /-- How often a value was there. -/
  hits : Nat
  /-- How often a value had to be computed. -/
  misses : Nat

namespace DocumentMemo

variable {β ε : Type}

/-- The memo that has not been asked yet. -/
def empty (capacity : Nat) (fingerprint : Fingerprint := .standard) : DocumentMemo β :=
  ⟨fingerprint, capacity, KeyedList.empty, 0, 0⟩

/-- Whether values are kept at all. -/
def isEnabled (memo : DocumentMemo β) : Bool :=
  memo.capacity != 0

/-- The value kept for a text. -/
def find? (memo : DocumentMemo β) (text : String) : Option β :=
  if memo.isEnabled then
    ((memo.entries.find? (memo.fingerprint text)).filter (·.1 == text)).map Prod.snd
  else none

/-- The memo with a value for a text, in place of what had the same fingerprint. -/
def keep (memo : DocumentMemo β) (text : String) (value : β) : DocumentMemo β :=
  if memo.isEnabled then
    { memo with entries := memo.entries.put (memo.fingerprint text) (text, value) }
  else memo

/-- The value for a document: the one that is kept, or else what `compute` gives, which is kept
unless it is an error. -/
def fetch (memo : DocumentMemo β) (document : Document) (compute : Unit → Except ε β) :
    Except ε β × DocumentMemo β :=
  match memo.find? document.text with
  | some value => (.ok value, { memo with hits := memo.hits + 1 })
  | none =>
    -- a call for which the computation fails counts as a miss as well
    let missed := { memo with misses := memo.misses + 1 }
    match compute () with
    | .ok value => (.ok value, missed.keep document.text value)
    | .error cause => (.error cause, missed)

/-- The memo without the entry under a fingerprint. -/
def evict (memo : DocumentMemo β) (key : UInt64) : DocumentMemo β :=
  { memo with entries := memo.entries.erase key }

/-- The memo without entries; the counts stay. -/
def clear (memo : DocumentMemo β) : DocumentMemo β :=
  { memo with entries := KeyedList.empty }

/-- The share of the calls for which a value was there; zero before the first call. -/
def hitRate {α : Type} [Scalar α] (memo : DocumentMemo β) : α :=
  let calls := memo.hits + memo.misses
  if calls == 0 then Scalar.zero else Scalar.ofNat memo.hits / Scalar.ofNat calls

end DocumentMemo

end NewsScoring
