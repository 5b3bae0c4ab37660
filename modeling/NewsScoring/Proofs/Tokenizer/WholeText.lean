import NewsScoring.Proofs.Token.Sentences
import NewsScoring.Tokenizer

/-!
# Tokens of whole texts

A text is cut into sentences before it is cut into fragments, but a sentence ends at the end of the
text or in front of white space, so that its fragments are fragments of the text
(`flatMap_fragments_sentences`).  The tokens are therefore those of the text as a whole, and the
tokens of two texts with white space between them are those of the one and then those of the other
(`tokensWithout_ignores_sentences`).
-/

namespace NewsScoring.Tokenizer

open Sentence Text

/-! ### Fragments of sentences -/

/-- The steps from sentence to sentence leave no fragment out and divide none, by induction on the
steps. -/
theorem flatMap_fragments_of_yields {text : List Char} {sentences : List (List Char)}
    (h : Yields text sentences) : sentences.flatMap Text.fragments = Text.fragments text := by
  induction h with
  | stop hnext => exact (fragments_of_blank (next?_eq_none_iff.1 hnext)).symm
  | @step text first rest sentences hnext _ ih =>
    obtain ⟨gap, rfl, hgap, -, hcut⟩ := next?_eq_some_iff.1 hnext
    -- What is left after a sentence is nothing or starts with white space.
    have hrest : ∀ c ∈ rest.head?, Unicode.isWhiteSpace c = true := by
      intro c hc
      have hne : rest ≠ [] := by
        rintro rfl
        cases hc
      obtain ⟨d, hd, hblank⟩ := startsBlank_iff.1 (hcut.break_of_ne_nil hne).2
      rwa [Option.mem_unique hc hd]
    rw [List.flatMap_cons, ih, fragments_blank_append hgap, fragments_append first hrest]

theorem fragments_eq_nonBlankParts (text : String) :
    fragments text = nonBlankParts text.toList := by
  rw [fragments, flatMap_fragments_of_yields (yields_sentences text.toList),
    Text.fragments_eq_nonBlankParts]

/-! ### Tokens of fragments -/

theorem filterMap_canonicalize (fragments : List (List Char)) :
    fragments.filterMap Token.canonicalize =
      (fragments.map Token.normalize).filter Token.isPlausible := by
  rw [List.filter_map, ← List.filterMap_eq_map, List.filterMap_filter]
  rfl

variable (tokenizer : Tokenizer) (extra : List String)

theorem tokensWithout_eq (text : String) : tokenizer.tokensWithout extra text =
    ((((nonBlankParts text.toList).map Token.normalize).filter Token.isPlausible).map
      String.ofList).filter fun token => token ∉ tokenizer.stopwords.words ∧ token ∉ extra := by
  rw [tokensWithout, fragments_eq_nonBlankParts, filterMap_canonicalize]
  refine List.filter_congr fun token _ => ?_
  simp [keeps, Stopwords.contains]

theorem tokensWithout_append (a : String) {b : String}
    (hb : ∀ c ∈ b.toList.head?, Unicode.isWhiteSpace c = true) :
    tokenizer.tokensWithout extra (a ++ b) =
      tokenizer.tokensWithout extra a ++ tokenizer.tokensWithout extra b := by
  simp only [tokensWithout_eq, String.toList_append, nonBlankParts_append _ hb, List.map_append,
    List.filter_append]

theorem tokensWithout_blank_append {blank : String} (hblank : IsBlank blank.toList) (b : String) :
    tokenizer.tokensWithout extra (blank ++ b) = tokenizer.tokensWithout extra b := by
  rw [tokensWithout_eq, tokensWithout_eq, String.toList_append, nonBlankParts_blank_append hblank]

/-- The fragments of a text are what white space divides the whole text into, without the empty
parts.  Its tokens are the plausible words of these, in order, that are neither stopwords nor extra
words; and white space between two texts keeps their tokens apart. -/
theorem tokensWithout_ignores_sentences :
    (∀ text, fragments text = nonBlankParts text.toList ∧
      tokenizer.tokensWithout extra text =
        ((((nonBlankParts text.toList).map Token.normalize).filter Token.isPlausible).map
          String.ofList).filter fun token => token ∉ tokenizer.stopwords.words ∧ token ∉ extra) ∧
    ∀ a blank b : String, blank ≠ "" → IsBlank blank.toList →
      tokenizer.tokensWithout extra (a ++ blank ++ b) =
        tokenizer.tokensWithout extra a ++ tokenizer.tokensWithout extra b := by
  refine ⟨fun text => ⟨fragments_eq_nonBlankParts text, tokensWithout_eq tokenizer extra text⟩, ?_⟩
  intro a blank b hne hblank
  have hhead : ∀ c ∈ (blank ++ b).toList.head?, Unicode.isWhiteSpace c = true := by
    obtain ⟨c, rest, hcons⟩ :=
      List.exists_cons_of_ne_nil fun hnil => hne (String.toList_eq_nil_iff.1 hnil)
    rw [hcons] at hblank
    rw [String.toList_append, hcons]
    intro d hd
    obtain rfl : c = d := Option.some.inj hd
    exact hblank c List.mem_cons_self
  rw [String.append_assoc, tokensWithout_append tokenizer extra a hhead,
    tokensWithout_blank_append tokenizer extra hblank]

/-- Two sentences without a full stop between them, and an article that is a stopword: the line
break keeps their tokens apart. -/
theorem tokensWithout_ignores_sentences_harvest :
    ("\n" ≠ "" ∧ IsBlank "\n".toList) ∧
      tokensWithout ⟨.ofList ["the"]⟩ ["rose"]
          ("Prices rose 3.5 points. The" ++ "\n" ++ "harvest fell") =
        ["prices", "points"] ++ ["harvest", "fell"] := by
  have hne : "\n" ≠ "" := by decide
  have hblank : IsBlank "\n".toList := by decide
  have hfirst : tokensWithout ⟨.ofList ["the"]⟩ ["rose"] "Prices rose 3.5 points. The" =
      ["prices", "points"] := by
    decide +kernel
  have hsecond : tokensWithout ⟨.ofList ["the"]⟩ ["rose"] "harvest fell" = ["harvest", "fell"] := by
    decide +kernel
  refine ⟨⟨hne, hblank⟩, ?_⟩
  rw [(tokensWithout_ignores_sentences _ _).2 _ _ _ hne hblank, hfirst, hsecond]

end NewsScoring.Tokenizer
