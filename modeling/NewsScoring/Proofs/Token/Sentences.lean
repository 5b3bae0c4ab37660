import Mathlib.Tactic.MkIffOfInductiveProp
import NewsScoring.Proofs.Text.Fragments
import NewsScoring.Token.Sentence

/-!
# Sentences and what is between them

One step takes a sentence off the start of a text (`next?`): it passes over white space and cuts
behind the first terminator that white space follows, or at the end of the text.  What a step does
is said once (`next?_eq_some_iff`, `next?_eq_none_iff`).  From this follows what comes of all steps:
they end, and the sentences are those of the one way to write a text as sentences with white space
around them, of which each but the last ends in a terminator and none has a terminator in front of
white space within it (`IsDecomposition`, `sentences_isDecomposition`).
-/

namespace NewsScoring.Sentence

open Unicode Text

/-! ### Where a sentence is cut off -/

/-- The marks that can end a sentence are the full stop, the exclamation and the question mark. -/
theorem isTerminator_iff {c : Char} : isTerminator c = true ↔ c = '.' ∨ c = '!' ∨ c = '?' := by
  simp [isTerminator, or_assoc]

/-- Whether a text starts with a character that is not white space. -/
def StartsFilled (text : List Char) : Prop :=
  ∃ c ∈ text.head?, isWhiteSpace c = false

/-- Whether the last character of a text is a terminator. -/
def EndsTerminated (text : List Char) : Prop :=
  ∃ c ∈ text.getLast?, isTerminator c = true

instance (text : List Char) : Decidable (StartsFilled text) :=
  decidable_of_iff (text.head?.any (!isWhiteSpace ·) = true) <| by
    cases h : text.head? <;> simp [StartsFilled, h]

instance (text : List Char) : Decidable (EndsTerminated text) :=
  decidable_of_iff (text.getLast?.any isTerminator = true) <| by
    cases h : text.getLast? <;> simp [EndsTerminated, h]

/-- Whether no terminator within a text has white space directly behind it. -/
def IsUnbroken (text : List Char) : Prop :=
  ∀ before c d after, text = before ++ c :: d :: after → isTerminator c = true →
    isWhiteSpace d = false

/-- Whether a text may be cut behind its part `first`: within that part there is no break, and the
cut itself is at a break unless nothing is left. -/
structure IsCut (first rest : List Char) : Prop where
  isUnbroken : IsUnbroken first
  break_of_ne_nil : rest ≠ [] → EndsTerminated first ∧ startsBlank rest = true

variable {text first rest gap tail : List Char} {c : Char}

theorem startsBlank_iff : startsBlank text = true ↔ ∃ c ∈ text.head?, isWhiteSpace c = true := by
  cases text with
  | nil => simp [startsBlank]
  | cons c rest => simp [startsBlank]

theorem isUnbroken_nil : IsUnbroken [] := by
  intro before c d after heq
  simp at heq

/-- A break in a longer text is at its first character or behind it. -/
theorem isUnbroken_cons_iff : IsUnbroken (c :: rest) ↔
    (isTerminator c && startsBlank rest) = false ∧ IsUnbroken rest := by
  constructor
  · intro h
    refine ⟨?_, fun before d e after heq => h (c :: before) d e after (congrArg (c :: ·) heq)⟩
    cases rest with
    | nil => simp [startsBlank]
    | cons d rest =>
      rw [Bool.and_eq_false_imp]
      exact h [] c d rest rfl
  · rintro ⟨hfirst, hrest⟩ before d e after heq hd
    cases before with
    | nil =>
      obtain ⟨rfl, rfl⟩ := List.cons.inj heq
      rw [hd, Bool.true_and] at hfirst
      exact hfirst
    | cons b before => exact hrest before d e after (List.cons.inj heq).2 hd

theorem startsBlank_append (hgap : IsBlank gap) (hne : gap ≠ []) (rest : List Char) :
    startsBlank (gap ++ rest) = true := by
  obtain ⟨c, gap, rfl⟩ := List.exists_cons_of_ne_nil hne
  exact hgap c List.mem_cons_self

theorem StartsFilled.ne_nil (h : StartsFilled first) : first ≠ [] := by
  rintro rfl
  obtain ⟨c, hc, -⟩ := h
  cases hc

theorem StartsFilled.startsBlank_append_eq (h : StartsFilled first) (rest : List Char) :
    startsBlank (first ++ rest) = false := by
  obtain ⟨c, hc, hfilled⟩ := h
  obtain ⟨behind, rfl⟩ := List.head?_eq_some_iff.1 hc
  exact hfilled

instance decidableIsUnbroken : (text : List Char) → Decidable (IsUnbroken text)
  | [] => isTrue isUnbroken_nil
  | _ :: rest =>
    have := decidableIsUnbroken rest
    decidable_of_iff' _ isUnbroken_cons_iff

/-- The one way to cut the first sentence off, by induction on that sentence. -/
theorem splitFirst_append (h : IsCut first rest) : splitFirst (first ++ rest) = (first, rest) := by
  induction first with
  | nil =>
    -- An empty sentence does not end in a terminator, so that nothing is left.
    have hrest : rest = [] := by
      by_contra hne
      obtain ⟨⟨c, hc, -⟩, -⟩ := h.break_of_ne_nil hne
      simp at hc
    rw [hrest]
    rfl
  | cons c first ih =>
    obtain ⟨hfirst, hunbroken⟩ := isUnbroken_cons_iff.1 h.isUnbroken
    rw [List.cons_append, splitFirst]
    cases first with
    | nil =>
      by_cases hne : rest = []
      · simp [hne, startsBlank, splitFirst]
      · obtain ⟨hends, hblank⟩ := h.break_of_ne_nil hne
        have hc : isTerminator c = true := by simpa [EndsTerminated] using hends
        rw [List.nil_append, hc, hblank]
        rfl
    | cons d first =>
      have hcut : IsCut (d :: first) rest := by
        refine ⟨hunbroken, fun hne => ?_⟩
        obtain ⟨hends, hblank⟩ := h.break_of_ne_nil hne
        rw [EndsTerminated, List.getLast?_cons_cons] at hends
        exact ⟨hends, hblank⟩
      have hnone : (isTerminator c && startsBlank (d :: first ++ rest)) = false := hfirst
      rw [hnone, ih hcut]
      rfl

theorem splitFirst_fst_append_snd (text : List Char) :
    (splitFirst text).1 ++ (splitFirst text).2 = text := by
  fun_induction splitFirst text with
  | case1 => rfl
  | case2 c rest hbreak => rfl
  | case3 c rest hbreak ih => rw [List.cons_append, ih]

/-- The first sentence of a text that is not empty is not empty either. -/
theorem head?_splitFirst_fst (text : List Char) : (splitFirst text).1.head? = text.head? := by
  cases text with
  | nil => rfl
  | cons c rest =>
    rw [splitFirst]
    split <;> rfl

theorem isCut_splitFirst (text : List Char) : IsCut (splitFirst text).1 (splitFirst text).2 := by
  fun_induction splitFirst text with
  | case1 => exact ⟨isUnbroken_nil, fun hne => absurd rfl hne⟩
  | case2 c rest hbreak =>
    rw [Bool.and_eq_true] at hbreak
    refine ⟨isUnbroken_cons_iff.2 ⟨by simp [startsBlank], isUnbroken_nil⟩, fun _ => ?_⟩
    exact ⟨⟨c, rfl, hbreak.1⟩, hbreak.2⟩
  | case3 c rest hbreak ih =>
    have hblank : startsBlank (splitFirst rest).1 = startsBlank rest := by
      rw [Bool.eq_iff_iff, startsBlank_iff, startsBlank_iff, head?_splitFirst_fst]
    refine ⟨isUnbroken_cons_iff.2 ⟨?_, ih.isUnbroken⟩, fun hne => ?_⟩
    · rw [hblank]
      exact Bool.eq_false_iff.2 hbreak
    · obtain ⟨⟨d, hd, hterminator⟩, hrest⟩ := ih.break_of_ne_nil hne
      refine ⟨⟨d, ?_, hterminator⟩, hrest⟩
      rw [Option.mem_def, List.getLast?_cons, Option.mem_def.1 hd]
      rfl

/-! ### One step -/

/-- The first sentence of a text and what follows it; a blank text has none. -/
def next? (text : List Char) : Option (List Char × List Char) :=
  match trimStart text with
  | [] => none
  | c :: rest => some (splitFirst (c :: rest))

theorem next?_eq_none_iff : next? text = none ↔ IsBlank text := by
  rw [← trimStart_eq_nil_iff, next?]
  split
  · next h => simp [h]
  · next h => simp [h]

/-- A step passes over white space and cuts a sentence off behind it. -/
theorem next?_eq_some_iff : next? text = some (first, rest) ↔
    ∃ gap, text = gap ++ (first ++ rest) ∧ IsBlank gap ∧ StartsFilled first ∧ IsCut first rest := by
  constructor
  · intro h
    rw [next?] at h
    split at h
    · cases h
    · next c behind htrim =>
      obtain ⟨gap, heq, hgap, hc⟩ := exists_blank_append_of_trimStart_eq_cons htrim
      have hsplit : splitFirst (c :: behind) = (first, rest) := Option.some.inj h
      have happend := splitFirst_fst_append_snd (c :: behind)
      have hhead := head?_splitFirst_fst (c :: behind)
      have hcut := isCut_splitFirst (c :: behind)
      rw [hsplit] at happend hhead hcut
      exact ⟨gap, by rw [heq, happend], hgap, ⟨c, hhead, hc⟩, hcut⟩
  · rintro ⟨gap, rfl, hgap, ⟨c, hhead, hc⟩, hcut⟩
    obtain ⟨behind, rfl⟩ := List.head?_eq_some_iff.1 hhead
    have htrim : trimStart (gap ++ (c :: behind ++ rest)) = c :: (behind ++ rest) := by
      rw [trimStart_blank_append hgap, List.cons_append, trimStart_cons hc]
    have hsplit := splitFirst_append hcut
    rw [List.cons_append] at hsplit
    rw [next?, htrim]
    exact congrArg some hsplit

/-! ### All steps -/

/-- Whether steps from the start of a text to its end give the sentences in turn. -/
inductive Yields : List Char → List (List Char) → Prop
  | stop {text : List Char} : next? text = none → Yields text []
  | step {text first rest : List Char} {sentences : List (List Char)} :
      next? text = some (first, rest) → Yields rest sentences → Yields text (first :: sentences)

theorem sentences_of_next?_eq_none (h : next? text = none) : sentences text = [] := by
  rw [sentences]
  rw [next?] at h
  split
  · rfl
  · next c rest htrim => simp [htrim] at h

theorem sentences_of_next?_eq_some (h : next? text = some (first, rest)) :
    sentences text = first :: sentences rest := by
  rw [sentences]
  rw [next?] at h
  split
  · next htrim => simp [htrim] at h
  · next c behind htrim =>
    rw [htrim] at h
    rw [Option.some.inj h]

theorem yields_sentences (text : List Char) : Yields text (sentences text) := by
  fun_induction sentences text with
  | case1 text htrim => exact .stop (by rw [next?, htrim])
  | case2 text c rest htrim ih => exact .step (by rw [next?, htrim]) ih

/-! ### The decomposition of a text -/

/-- Whether a text consists of sentences, each given with the white space in front of it, and of
white space at its end, such that there is white space between any two sentences, each sentence but
the last ends in a terminator, and the last one does if white space follows it. -/
@[mk_iff]
structure IsDecomposition (text : List Char) (parts : List (List Char × List Char))
    (tail : List Char) : Prop where
  text_eq : text = (parts.flatMap fun part => part.1 ++ part.2) ++ tail
  isBlank_gap : ∀ part ∈ parts, IsBlank part.1
  isBlank_tail : IsBlank tail
  startsFilled : ∀ part ∈ parts, StartsFilled part.2
  isUnbroken : ∀ part ∈ parts, IsUnbroken part.2
  gap_ne_nil : ∀ part ∈ parts.tail, part.1 ≠ []
  endsTerminated : ∀ part ∈ parts.dropLast, EndsTerminated part.2
  endsTerminated_last : tail ≠ [] → ∀ part ∈ parts.getLast?, EndsTerminated part.2

variable {parts : List (List Char × List Char)}

instance (text : List Char) (parts : List (List Char × List Char)) (tail : List Char) :
    Decidable (IsDecomposition text parts tail) :=
  decidable_of_iff' _ (isDecomposition_iff text parts tail)

theorem isDecomposition_nil_iff : IsDecomposition text [] tail ↔ text = tail ∧ IsBlank tail := by
  constructor
  · exact fun h => ⟨h.text_eq, h.isBlank_tail⟩
  · rintro ⟨rfl, htail⟩
    constructor <;> simp [htail]

theorem IsDecomposition.ne_nil {part : List Char × List Char}
    (h : IsDecomposition text (part :: parts) tail) : text ≠ [] := by
  have hpart : part.2 ≠ [] := (h.startsFilled part List.mem_cons_self).ne_nil
  rw [h.text_eq, List.flatMap_cons]
  simp [hpart]

theorem IsDecomposition.isCut (h : IsDecomposition text ((gap, first) :: parts) tail) :
    IsCut first ((parts.flatMap fun part => part.1 ++ part.2) ++ tail) := by
  refine ⟨h.isUnbroken _ List.mem_cons_self, fun hne => ?_⟩
  cases parts with
  | nil =>
    rw [List.flatMap_nil, List.nil_append] at hne ⊢
    have hblank := startsBlank_append h.isBlank_tail hne []
    rw [List.append_nil] at hblank
    exact ⟨h.endsTerminated_last hne _ rfl, hblank⟩
  | cons part parts =>
    have hgap : IsBlank part.1 := h.isBlank_gap part (by simp)
    have hgapNe : part.1 ≠ [] := h.gap_ne_nil part (by simp)
    refine ⟨h.endsTerminated (gap, first) (by simp), ?_⟩
    rw [List.flatMap_cons, List.append_assoc, List.append_assoc]
    exact startsBlank_append hgap hgapNe _

theorem IsDecomposition.of_cons (h : IsDecomposition text ((gap, first) :: parts) tail) :
    IsDecomposition ((parts.flatMap fun part => part.1 ++ part.2) ++ tail) parts tail where
  text_eq := rfl
  isBlank_gap part hpart := h.isBlank_gap part (List.mem_cons_of_mem _ hpart)
  isBlank_tail := h.isBlank_tail
  startsFilled part hpart := h.startsFilled part (List.mem_cons_of_mem _ hpart)
  isUnbroken part hpart := h.isUnbroken part (List.mem_cons_of_mem _ hpart)
  gap_ne_nil part hpart := h.gap_ne_nil part (List.mem_of_mem_tail hpart)
  endsTerminated part hpart := by
    cases parts with
    | nil => simp at hpart
    | cons other parts => exact h.endsTerminated part (List.mem_cons_of_mem _ hpart)
  endsTerminated_last hne part hpart := by
    cases parts with
    | nil => simp at hpart
    | cons other parts => exact h.endsTerminated_last hne part hpart

theorem IsDecomposition.cons (h : IsDecomposition rest parts tail) (hgap : IsBlank gap)
    (hfilled : StartsFilled first) (hcut : IsCut first rest) :
    IsDecomposition (gap ++ (first ++ rest)) ((gap, first) :: parts) tail where
  text_eq := by
    rw [List.flatMap_cons, List.append_assoc, List.append_assoc, ← h.text_eq]
  isBlank_gap := List.forall_mem_cons.2 ⟨hgap, h.isBlank_gap⟩
  isBlank_tail := h.isBlank_tail
  startsFilled := List.forall_mem_cons.2 ⟨hfilled, h.startsFilled⟩
  isUnbroken := List.forall_mem_cons.2 ⟨hcut.isUnbroken, h.isUnbroken⟩
  gap_ne_nil := by
    cases parts with
    | nil => simp
    | cons part parts =>
      refine List.forall_mem_cons.2 ⟨fun hnil => ?_, h.gap_ne_nil⟩
      -- Without white space in front of it, the next sentence would follow on the cut.
      have hpart : StartsFilled part.2 := h.startsFilled part List.mem_cons_self
      have hrest : rest = part.2 ++ ((parts.flatMap fun part => part.1 ++ part.2) ++ tail) := by
        rw [h.text_eq, List.flatMap_cons, hnil, List.nil_append, List.append_assoc]
      have hstarts : startsBlank rest = false := by
        rw [hrest]
        exact hpart.startsBlank_append_eq _
      rw [(hcut.break_of_ne_nil h.ne_nil).2] at hstarts
      cases hstarts
  endsTerminated := by
    cases parts with
    | nil => simp
    | cons part parts =>
      rw [List.dropLast_cons_cons]
      exact List.forall_mem_cons.2 ⟨(hcut.break_of_ne_nil h.ne_nil).1, h.endsTerminated⟩
  endsTerminated_last hne part hpart := by
    cases parts with
    | nil =>
      obtain rfl : (gap, first) = part := Option.some.inj hpart
      refine (hcut.break_of_ne_nil ?_).1
      rwa [(isDecomposition_nil_iff.1 h).1]
    | cons other parts => exact h.endsTerminated_last hne part hpart

/-! ### The sentences of a text -/

/-- What the steps give is a decomposition, by induction on the steps. -/
theorem Yields.exists_isDecomposition {sentences : List (List Char)} (h : Yields text sentences) :
    ∃ parts tail, IsDecomposition text parts tail ∧ parts.map Prod.snd = sentences := by
  induction h with
  | @stop text hnext =>
    exact ⟨[], text, isDecomposition_nil_iff.2 ⟨rfl, next?_eq_none_iff.1 hnext⟩, rfl⟩
  | @step text first rest sentences hnext _ ih =>
    obtain ⟨parts, tail, hparts, rfl⟩ := ih
    obtain ⟨gap, rfl, hgap, hfilled, hcut⟩ := next?_eq_some_iff.1 hnext
    exact ⟨(gap, first) :: parts, tail, hparts.cons hgap hfilled hcut, rfl⟩

/-- Any decomposition of a text has its sentences, by induction on the parts. -/
theorem IsDecomposition.map_snd_eq (h : IsDecomposition text parts tail) :
    parts.map Prod.snd = sentences text := by
  induction parts generalizing text with
  | nil =>
    obtain ⟨rfl, hblank⟩ := isDecomposition_nil_iff.1 h
    exact (sentences_of_next?_eq_none (next?_eq_none_iff.2 hblank)).symm
  | cons part parts ih =>
    obtain ⟨gap, first⟩ := part
    have hnext : next? text =
        some (first, (parts.flatMap fun part => part.1 ++ part.2) ++ tail) := by
      refine next?_eq_some_iff.2 ⟨gap, ?_, h.isBlank_gap _ List.mem_cons_self,
        h.startsFilled _ List.mem_cons_self, h.isCut⟩
      rw [h.text_eq, List.flatMap_cons, List.append_assoc, List.append_assoc]
    rw [sentences_of_next?_eq_some hnext, List.map_cons, ih h.of_cons]

theorem sentences_eq_nil_iff : sentences text = [] ↔ IsBlank text := by
  rw [← next?_eq_none_iff]
  constructor
  · intro h
    cases hnext : next? text with
    | none => rfl
    | some step =>
      obtain ⟨first, rest⟩ := step
      rw [sentences_of_next?_eq_some hnext] at h
      cases h
  · exact sentences_of_next?_eq_none

/-- The steps through a text end and give its sentences, which are those of its one decomposition.
There are none exactly if the text is blank. -/
theorem sentences_isDecomposition (text : List Char) :
    Yields text (sentences text) ∧
    (∃ parts tail, IsDecomposition text parts tail ∧ parts.map Prod.snd = sentences text) ∧
    (∀ parts tail, IsDecomposition text parts tail → parts.map Prod.snd = sentences text) ∧
    (sentences text = [] ↔ IsBlank text) :=
  ⟨yields_sentences text, (yields_sentences text).exists_isDecomposition,
    fun _ _ h => h.map_snd_eq, sentences_eq_nil_iff⟩

/-- A report of four sentences, the third of which is a terminator alone, with a full stop within a
number, a question mark before white space and white space all around. -/
theorem sentences_isDecomposition_report :
    IsDecomposition " Wheat rose 3.5 points?! Why? .\n No rain. ".toList
      [(" ".toList, "Wheat rose 3.5 points?!".toList), (" ".toList, "Why?".toList),
        (" ".toList, ".".toList), ("\n ".toList, "No rain.".toList)] " ".toList ∧
    sentences " Wheat rose 3.5 points?! Why? .\n No rain. ".toList =
      ["Wheat rose 3.5 points?!".toList, "Why?".toList, ".".toList, "No rain.".toList] := by
  have hparts : IsDecomposition " Wheat rose 3.5 points?! Why? .\n No rain. ".toList
      [(" ".toList, "Wheat rose 3.5 points?!".toList), (" ".toList, "Why?".toList),
        (" ".toList, ".".toList), ("\n ".toList, "No rain.".toList)] " ".toList := by
    decide +kernel
  exact ⟨hparts, ((sentences_isDecomposition _).2.2.1 _ _ hparts).symm⟩

end NewsScoring.Sentence
