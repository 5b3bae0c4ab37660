import Mathlib.Data.List.DropRight
import NewsScoring.Text.Basic

/-!
# Endings of texts

What is left of a text is a part at its start, whether single characters come off its end
(`dropEndWhile`) or a given ending as a whole (`stripSuffix`).  Either the ending comes off, or it
is none and the text stays as it is (`stripSuffix_cases`).
-/

namespace NewsScoring.Text

variable {p : Char → Bool} {suffix text ending : List Char} {c : Char}

/-! ### Characters at the end -/

theorem dropEndWhile_prefix_self (p : Char → Bool) (text : List Char) :
    dropEndWhile p text <+: text :=
  List.rdropWhile_prefix p text

theorem dropEndWhile_append (hending : ∀ c ∈ ending, p c = true) (text : List Char) :
    dropEndWhile p (text ++ ending) = dropEndWhile p text := by
  have hreverse : ∀ c ∈ ending.reverse, p c = true :=
    fun c hc => hending c (List.mem_reverse.1 hc)
  rw [dropEndWhile, dropEndWhile, List.reverse_append, List.dropWhile_append_of_pos hreverse]

/-- No character comes off exactly if the last one does not. -/
theorem dropEndWhile_eq_self_iff :
    dropEndWhile p text = text ↔ ∀ c ∈ text.getLast?, p c = false := by
  refine List.rdropWhile_eq_self_iff.trans ?_
  rcases List.eq_nil_or_concat text with rfl | ⟨init, last, rfl⟩ <;> simp

/-! ### A given ending -/

theorem stripSuffix_append (suffix text : List Char) :
    stripSuffix suffix (text ++ suffix) = text := by
  simp [stripSuffix, stripSuffix?]

theorem stripSuffix_of_not_suffix (h : ¬suffix <:+ text) : stripSuffix suffix text = text := by
  rw [stripSuffix, stripSuffix?, if_neg (by rwa [List.isSuffixOf_iff_suffix])]
  rfl

theorem stripSuffix_of_getLast?_ne (hne : suffix ≠ []) (h : text.getLast? ≠ suffix.getLast?) :
    stripSuffix suffix text = text := by
  refine stripSuffix_of_not_suffix ?_
  rintro ⟨stem, rfl⟩
  exact h (List.getLast?_append_of_ne_nil stem hne)

theorem stripSuffix_cases (suffix text : List Char) :
    text = stripSuffix suffix text ++ suffix ∨
      ¬suffix <:+ text ∧ stripSuffix suffix text = text := by
  by_cases h : suffix <:+ text
  · obtain ⟨stem, rfl⟩ := h
    exact .inl (by rw [stripSuffix_append])
  · exact .inr ⟨h, stripSuffix_of_not_suffix h⟩

/-- What comes off is nothing or the ending. -/
theorem exists_stripSuffix_append_eq (suffix text : List Char) :
    ∃ taken, text = stripSuffix suffix text ++ taken ∧ (taken = [] ∨ taken = suffix) := by
  rcases stripSuffix_cases suffix text with h | ⟨-, h⟩
  · exact ⟨suffix, h, .inr rfl⟩
  · exact ⟨[], by rw [h, List.append_nil], .inl rfl⟩

theorem stripSuffix_prefix_self (suffix text : List Char) : stripSuffix suffix text <+: text := by
  obtain ⟨taken, h, -⟩ := exists_stripSuffix_append_eq suffix text
  exact ⟨taken, h.symm⟩

/-- A text up to a character that the ending does not have stays. -/
theorem exists_stripSuffix_append_cons_eq (hc : c ∉ suffix) (text rest : List Char) :
    ∃ rest', stripSuffix suffix (text ++ c :: rest) = text ++ c :: rest' := by
  rcases stripSuffix_cases suffix (text ++ c :: rest) with h | ⟨-, h⟩
  · rcases List.append_eq_append_iff.1 h with ⟨gap, hstem, hgap⟩ | ⟨gap, -, hgap⟩
    · cases gap with
      | nil =>
        rw [List.nil_append] at hgap
        exact absurd (hgap ▸ List.mem_cons_self) hc
      | cons d gap =>
        rw [List.cons_append, List.cons.injEq] at hgap
        exact ⟨gap, by rw [hstem, hgap.1]⟩
    · exact absurd (hgap ▸ List.mem_append_right gap List.mem_cons_self) hc
  · exact ⟨rest, h⟩

end NewsScoring.Text
