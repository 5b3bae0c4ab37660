import Mathlib.Data.List.Basic
import NewsScoring.DocumentMemo
import NewsScoring.Tokenizer

/-!
# Documents with the same text

The text of a document joins its fields with separators.  Two documents whose fields are free of
the separators between them have the same text only if their titles, descriptions and authors are
equal and their paragraphs are, but for one empty paragraph in place of none (`text_eq_text`).  An
empty paragraph has no tokens, so such documents have the same tokens
(`documentTokens_eq_of_text_eq`).
-/

namespace NewsScoring

namespace Document

/-- Whether no field of a document has the separator that ends it in the text of the document. -/
structure IsSeparated (document : Document) : Prop where
  title : fieldSeparator ∉ document.title.toList
  description : fieldSeparator ∉ document.description.toList
  author : fieldSeparator ∉ document.author.toList
  paragraphs : ∀ paragraph ∈ document.paragraphs, paragraphSeparator ∉ paragraph.toList

/-- The characters between the fields and the end of a text. -/
def joinedParagraphs (paragraphs : List String) : List Char :=
  [paragraphSeparator].intercalate (paragraphs.map String.toList)

theorem toList_text (document : Document) :
    document.text.toList =
      document.title.toList ++ fieldSeparator :: (document.description.toList ++
        fieldSeparator :: (document.author.toList ++
          fieldSeparator :: joinedParagraphs document.paragraphs)) := by
  simp [text, joinedParagraphs]

/-- Paragraphs that are free of the separator can be read off what they are joined to. -/
theorem splitOn_joinedParagraphs {paragraphs : List String} (hne : paragraphs ≠ [])
    (h : ∀ paragraph ∈ paragraphs, paragraphSeparator ∉ paragraph.toList) :
    (joinedParagraphs paragraphs).splitOn paragraphSeparator = paragraphs.map String.toList :=
  List.splitOn_intercalate paragraphSeparator (by simpa using h) (by simpa using hne)

/-- What joins no paragraphs is also what joins one empty paragraph, and nothing else. -/
theorem eq_of_joinedParagraphs_eq_nil {paragraphs : List String}
    (h : ∀ paragraph ∈ paragraphs, paragraphSeparator ∉ paragraph.toList)
    (hnil : joinedParagraphs paragraphs = []) : paragraphs = [] ∨ paragraphs = [""] := by
  by_cases hne : paragraphs = []
  · exact Or.inl hne
  · have hsplit := splitOn_joinedParagraphs hne h
    rw [hnil, List.splitOn_nil] at hsplit
    cases paragraphs with
    | nil => exact absurd rfl hne
    | cons paragraph rest =>
      simp only [List.map_cons, List.cons.injEq, List.nil_eq, String.toList_eq_nil_iff,
        List.map_eq_nil_iff] at hsplit
      exact Or.inr (by rw [hsplit.1, hsplit.2])

/-- The paragraphs as far as the text tells them. -/
theorem joinedParagraphs_inj {p q : List String}
    (hp : ∀ paragraph ∈ p, paragraphSeparator ∉ paragraph.toList)
    (hq : ∀ paragraph ∈ q, paragraphSeparator ∉ paragraph.toList)
    (h : joinedParagraphs p = joinedParagraphs q) :
    p = q ∨ (p = [] ∧ q = [""]) ∨ (p = [""] ∧ q = []) := by
  by_cases hp0 : p = []
  · rw [hp0] at h
    have hq0 := eq_of_joinedParagraphs_eq_nil hq (h.symm.trans rfl)
    rcases hq0 with hq0 | hq0 <;> simp [hp0, hq0]
  · by_cases hq0 : q = []
    · rw [hq0] at h
      have hp1 := eq_of_joinedParagraphs_eq_nil hp (h.trans rfl)
      rcases hp1 with hp1 | hp1 <;> simp [hp1, hq0]
    · left
      have hsplit : p.map String.toList = q.map String.toList := by
        rw [← splitOn_joinedParagraphs hp0 hp, h, splitOn_joinedParagraphs hq0 hq]
      exact List.map_injective_iff.2 (fun _ _ => String.toList_inj.1) hsplit

/-- What stands before and behind the first separator of a list. -/
theorem eq_of_append_separator_eq {separator : Char} {a b rest rest' : List Char}
    (ha : separator ∉ a) (hb : separator ∉ b)
    (h : a ++ separator :: rest = b ++ separator :: rest') : a = b ∧ rest = rest' := by
  induction a generalizing b with
  | nil =>
    cases b with
    | nil => exact ⟨rfl, List.tail_eq_of_cons_eq h⟩
    | cons d b => exact absurd (List.head_eq_of_cons_eq h ▸ List.mem_cons_self) hb
  | cons c a ih =>
    cases b with
    | nil => exact absurd (List.head_eq_of_cons_eq h ▸ List.mem_cons_self) ha
    | cons d b =>
      have hne := ih (fun hmem => ha (List.mem_cons_of_mem _ hmem))
        (fun hmem => hb (List.mem_cons_of_mem _ hmem)) (List.tail_eq_of_cons_eq h)
      exact ⟨by rw [List.head_eq_of_cons_eq h, hne.1], hne.2⟩

/-- The text of a document that is free of separators tells its fields. -/
theorem text_eq_text {a b : Document} (ha : a.IsSeparated) (hb : b.IsSeparated)
    (h : a.text = b.text) :
    a.title = b.title ∧ a.description = b.description ∧ a.author = b.author ∧
      joinedParagraphs a.paragraphs = joinedParagraphs b.paragraphs := by
  have hlist := congrArg String.toList h
  rw [toList_text, toList_text] at hlist
  obtain ⟨htitle, hlist⟩ := eq_of_append_separator_eq ha.title hb.title hlist
  obtain ⟨hdescription, hlist⟩ := eq_of_append_separator_eq ha.description hb.description hlist
  obtain ⟨hauthor, hparagraphs⟩ := eq_of_append_separator_eq ha.author hb.author hlist
  exact ⟨String.toList_inj.1 htitle, String.toList_inj.1 hdescription,
    String.toList_inj.1 hauthor, hparagraphs⟩

end Document

namespace Tokenizer

variable (tokenizer : Tokenizer)

@[simp]
theorem tokensWithout_empty (extra : List String) : tokenizer.tokensWithout extra "" = [] := by
  have hnone : Sentence.sentences [] = [] := by rw [Sentence.sentences]; rfl
  simp [tokensWithout, fragments, hnone]

/-- Two documents that are free of separators and have the same text have the same tokens. -/
theorem documentTokens_eq_of_text_eq {a b : Document} (ha : a.IsSeparated) (hb : b.IsSeparated)
    (h : a.text = b.text) (extra : List String) :
    tokenizer.documentTokens a extra = tokenizer.documentTokens b extra := by
  obtain ⟨htitle, hdescription, hauthor, hparagraphs⟩ := Document.text_eq_text ha hb h
  have hbody : a.paragraphs.flatMap (tokenizer.tokensWithout extra) =
      b.paragraphs.flatMap (tokenizer.tokensWithout extra) := by
    rcases Document.joinedParagraphs_inj ha.paragraphs hb.paragraphs hparagraphs with
      hsame | ⟨hnone, hempty⟩ | ⟨hempty, hnone⟩
    · rw [hsame]
    · simp [hnone, hempty]
    · simp [hnone, hempty]
  simp only [documentTokens, documentTexts, List.flatMap_cons, List.flatMap_append, htitle,
    hdescription, hauthor, hbody]

end Tokenizer

end NewsScoring
