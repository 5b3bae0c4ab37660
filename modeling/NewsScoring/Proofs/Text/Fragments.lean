import Mathlib.Data.List.TakeWhile
import NewsScoring.Text.Basic

/-!
# Fragments and white space

The fragments of a text are what white space divides it into, without the empty parts
(`fragments_eq_nonBlankParts`).  So a text that is cut in front of white space has the fragments of
its first part and then those of its second (`fragments_append`), and white space at the start adds
none (`fragments_blank_append`).
-/

namespace NewsScoring.Text

open Unicode

/-- Whether all characters of a text are white space. -/
def IsBlank (text : List Char) : Prop :=
  ∀ c ∈ text, isWhiteSpace c = true

instance (text : List Char) : Decidable (IsBlank text) :=
  decidable_of_iff (text.all isWhiteSpace = true) List.all_eq_true

/-- What white space divides a text into, without the empty parts. -/
def nonBlankParts (text : List Char) : List (List Char) :=
  (text.splitOnP isWhiteSpace).filter (!·.isEmpty)

variable {text blank word rest : List Char} {c : Char}

/-- What is left when characters come off the start does not start with one of them. -/
theorem eq_false_of_mem_head?_dropWhile {p : Char → Bool} (hc : c ∈ (text.dropWhile p).head?) :
    p c = false := by
  have hhead := List.head?_dropWhile_not p text
  rw [Option.mem_def.1 hc] at hhead
  exact hhead

/-! ### White space at the start -/

theorem trimStart_blank_append (hblank : IsBlank blank) (rest : List Char) :
    trimStart (blank ++ rest) = trimStart rest :=
  List.dropWhile_append_of_pos hblank

theorem trimStart_cons (hc : isWhiteSpace c = false) (rest : List Char) :
    trimStart (c :: rest) = c :: rest :=
  List.dropWhile_cons_of_neg (by rw [hc]; exact Bool.false_ne_true)

theorem trimStart_eq_nil_iff : trimStart text = [] ↔ IsBlank text :=
  List.dropWhile_eq_nil_iff

/-- A text that is not blank is white space and then a character that is none. -/
theorem exists_blank_append_of_trimStart_eq_cons (h : trimStart text = c :: rest) :
    ∃ blank, text = blank ++ c :: rest ∧ IsBlank blank ∧ isWhiteSpace c = false := by
  have hdrop : text.dropWhile isWhiteSpace = c :: rest := h
  have hc : c ∈ (text.dropWhile isWhiteSpace).head? := by rw [hdrop]; rfl
  refine ⟨text.takeWhile isWhiteSpace, ?_, fun d hd => List.mem_takeWhile_imp hd,
    eq_false_of_mem_head?_dropWhile hc⟩
  rw [← hdrop]
  exact List.takeWhile_append_dropWhile.symm

/-! ### The parts between white space -/

theorem nonBlankParts_append_cons (hc : isWhiteSpace c = true) (text rest : List Char) :
    nonBlankParts (text ++ c :: rest) = nonBlankParts text ++ nonBlankParts rest := by
  unfold nonBlankParts
  rw [List.splitOnP_append_cons text rest hc, List.filter_append]

theorem nonBlankParts_cons (hc : isWhiteSpace c = true) (rest : List Char) :
    nonBlankParts (c :: rest) = nonBlankParts rest :=
  nonBlankParts_append_cons hc [] rest

theorem nonBlankParts_append (text : List Char)
    (hrest : ∀ c ∈ rest.head?, isWhiteSpace c = true) :
    nonBlankParts (text ++ rest) = nonBlankParts text ++ nonBlankParts rest := by
  cases rest with
  | nil => rw [List.append_nil, show nonBlankParts [] = [] from rfl, List.append_nil]
  | cons c rest =>
    have hc : isWhiteSpace c = true := hrest c rfl
    rw [nonBlankParts_append_cons hc, nonBlankParts_cons hc]

theorem nonBlankParts_blank_append (hblank : IsBlank blank) (rest : List Char) :
    nonBlankParts (blank ++ rest) = nonBlankParts rest := by
  induction blank with
  | nil => rfl
  | cons c blank ih =>
    obtain ⟨hc, hblank⟩ := List.forall_mem_cons.1 hblank
    rw [List.cons_append, nonBlankParts_cons hc, ih hblank]

theorem nonBlankParts_of_blank (hblank : IsBlank blank) : nonBlankParts blank = [] := by
  have hparts := nonBlankParts_blank_append hblank []
  rwa [List.append_nil] at hparts

theorem nonBlankParts_word (hne : word ≠ []) (hword : ∀ c ∈ word, isWhiteSpace c = false) :
    nonBlankParts word = [word] := by
  rw [nonBlankParts, List.splitOnP_eq_singleton hword]
  simp [hne]

/-! ### The fragments -/

/-- The fragments are the parts between white space, by the recursion of `fragments`. -/
theorem fragments_eq_nonBlankParts (text : List Char) : fragments text = nonBlankParts text := by
  fun_induction fragments text with
  | case1 text htrim => exact (nonBlankParts_of_blank (trimStart_eq_nil_iff.1 htrim)).symm
  | case2 text c rest htrim ih =>
    obtain ⟨blank, rfl, hblank, hc⟩ := exists_blank_append_of_trimStart_eq_cons htrim
    have hsplit : c :: rest =
        (c :: rest.takeWhile (!isWhiteSpace ·)) ++ rest.dropWhile (!isWhiteSpace ·) := by
      rw [List.cons_append, List.takeWhile_append_dropWhile]
    have hword : ∀ d ∈ c :: rest.takeWhile (!isWhiteSpace ·), isWhiteSpace d = false := by
      refine List.forall_mem_cons.2 ⟨hc, fun d hd => ?_⟩
      simpa using List.mem_takeWhile_imp hd
    -- Behind the word, the text is at its end or goes on with white space.
    have hbehind : ∀ d ∈ (rest.dropWhile (!isWhiteSpace ·)).head?, isWhiteSpace d = true := by
      intro d hd
      simpa using eq_false_of_mem_head?_dropWhile hd
    rw [nonBlankParts_blank_append hblank, hsplit, nonBlankParts_append _ hbehind,
      nonBlankParts_word (List.cons_ne_nil _ _) hword, ih, List.singleton_append]

theorem fragments_append (text : List Char) (hrest : ∀ c ∈ rest.head?, isWhiteSpace c = true) :
    fragments (text ++ rest) = fragments text ++ fragments rest := by
  simp only [fragments_eq_nonBlankParts]
  exact nonBlankParts_append text hrest

theorem fragments_blank_append (hblank : IsBlank blank) (rest : List Char) :
    fragments (blank ++ rest) = fragments rest := by
  simp only [fragments_eq_nonBlankParts]
  exact nonBlankParts_blank_append hblank rest

theorem fragments_of_blank (hblank : IsBlank blank) : fragments blank = [] := by
  rw [fragments_eq_nonBlankParts]
  exact nonBlankParts_of_blank hblank

end NewsScoring.Text
