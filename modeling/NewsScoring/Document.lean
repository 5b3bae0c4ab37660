import NewsScoring.Instant.Basic

/-!
# Documents

A news article as it is scored: title, description, author and body paragraphs, with an identifier
and the time of publication.  Each field is empty, and the time the epoch, where it is not given.
-/

namespace NewsScoring

/-- A news article. -/
structure Document where
  id : String := ""
  title : String := ""
  description : String := ""
  author : String := ""
  /-- The body paragraphs in reading order. -/
  paragraphs : List String := []
  publishedAt : Instant := Instant.epoch
  deriving DecidableEq, Inhabited

/-- The first body paragraph, empty where there is no body. -/
def Document.firstParagraph (document : Document) : String :=
  document.paragraphs.headD ""

theorem Document.firstParagraph_eq (document : Document) :
    document.firstParagraph = document.paragraphs.head?.getD "" :=
  List.headD_eq_head?_getD

end NewsScoring
