import Mathlib.Data.List.Basic
import NewsScoring.Json.Token
import NewsScoring.Report

/-!
# Quoted texts in reports

A quoted text holds no line break (`Report.newline_notMem_quote`), and a reader of JSON gets the
text back from it (`Report.exists_token?_quote`).  Three kinds of characters are told apart
(`Report.escape_cases`): those that have a letter of their own behind a backslash, other control
characters, which are written by their code, and the rest, which stand for themselves.
-/

namespace NewsScoring.Report

open Json

/-! ### Characters -/

/-- How a character is written in a quoted text. -/
theorem escape_cases (c : Char) :
    (∃ letter, escape c = ['\\', letter] ∧ letter ≠ 'u' ∧ escaped? letter = some c) ∨
    (c.toNat < 0x20 ∧ escape c =
      ['\\', 'u', '0', '0', hexDigit (c.toNat / 16), hexDigit (c.toNat % 16)]) ∨
    (0x20 ≤ c.toNat ∧ c ≠ '"' ∧ c ≠ '\\' ∧ escape c = [c]) := by
  unfold escape
  split
  · exact .inl ⟨'"', rfl, by decide, rfl⟩
  · exact .inl ⟨'\\', rfl, by decide, rfl⟩
  · exact .inl ⟨'b', rfl, by decide, rfl⟩
  · exact .inl ⟨'t', rfl, by decide, rfl⟩
  · exact .inl ⟨'n', rfl, by decide, rfl⟩
  · exact .inl ⟨'f', rfl, by decide, rfl⟩
  · exact .inl ⟨'r', rfl, by decide, rfl⟩
  · rename_i hquote hbackslash _ _ _ _ _
    by_cases hcontrol : c.toNat < 0x20
    · rw [if_pos hcontrol]
      exact .inr (.inl ⟨hcontrol, rfl⟩)
    · rw [if_neg hcontrol]
      exact .inr (.inr ⟨Nat.le_of_not_lt hcontrol, hquote, hbackslash, rfl⟩)

theorem hexDigit_ne_newline {n : ℕ} (h : n < 16) : '\n' ≠ hexDigit n := by
  revert n
  decide

theorem newline_notMem_escape (c : Char) : '\n' ∉ escape c := by
  rcases escape_cases c with ⟨letter, hescape, -, hletter⟩ | ⟨hcontrol, hescape⟩ |
    ⟨hprinted, -, -, hescape⟩ <;> rw [hescape]
  · have hne : '\n' ≠ letter := by
      rintro rfl
      cases hletter
    simp [hne]
  · have hhigh := hexDigit_ne_newline (n := c.toNat / 16) (by omega)
    have hlow := hexDigit_ne_newline (n := c.toNat % 16) (by omega)
    simp [hhigh, hlow]
  · have hne : '\n' ≠ c := by
      rintro rfl
      exact absurd hprinted (by decide)
    simp [hne]

/-- A quoted text holds no line break. -/
theorem newline_notMem_quote (text : String) : '\n' ∉ (quote text).toList := by
  have htext : '\n' ∉ text.toList.flatMap escape := by
    intro hmem
    obtain ⟨c, -, hc⟩ := List.mem_flatMap.1 hmem
    exact newline_notMem_escape c hc
  rw [quote, String.toList_ofList]
  simp [htext]

/-! ### Reading a text back -/

theorem codeUnit?_hexDigit {n : ℕ} (h : n < 0x20) :
    codeUnit? '0' '0' (hexDigit (n / 16)) (hexDigit (n % 16)) = some n := by
  revert n
  decide

/-- A code below those of surrogates stands for its character. -/
theorem characters?_codeUnit {code : ℕ} (h : code < 0xD800) (later : List StringPart) :
    characters? (.codeUnit code :: later) = (characters? later).map (Char.ofNat code :: ·) := by
  have hhigh : isHighSurrogate code = false := by
    simp only [isHighSurrogate, Bool.and_eq_false_iff, decide_eq_false_iff_not]
    omega
  have hlow : isLowSurrogate code = false := by
    simp only [isLowSurrogate, Bool.and_eq_false_iff, decide_eq_false_iff_not]
    omega
  rcases later with _ | ⟨_ | _, later⟩ <;> simp [characters?, hhigh, hlow]

/-- A written character is read as one part of a string, which stands for it. -/
theorem exists_stringParts?_escape (c : Char) :
    ∃ part, (∀ parts rest,
        stringParts? parts (escape c ++ rest) = stringParts? (part :: parts) rest) ∧
      ∀ later, characters? (part :: later) = (characters? later).map (c :: ·) := by
  rcases escape_cases c with ⟨letter, hescape, hne, hletter⟩ | ⟨hcontrol, hescape⟩ |
    ⟨hprinted, hquote, hbackslash, hescape⟩ <;> rw [hescape]
  · refine ⟨.character c, fun parts rest => ?_, fun later => rfl⟩
    rw [List.cons_append, List.cons_append, List.nil_append, stringParts?]
    · simp only [hletter]
    · rintro a b d e rest' rfl
      exact absurd rfl hne
  · refine ⟨.codeUnit c.toNat, fun parts rest => ?_, fun later => ?_⟩
    · simp [stringParts?, codeUnit?_hexDigit hcontrol]
    · rw [characters?_codeUnit (by omega), Char.ofNat_toNat]
  · refine ⟨.character c, fun parts rest => ?_, fun later => rfl⟩
    rw [List.cons_append, List.nil_append, stringParts?]
    · rw [if_neg (Nat.not_lt.2 hprinted)]
    · exact hquote
    · intro _ _ _ _ _ hc
      exact absurd hc hbackslash
    · intro _ _ hc
      exact absurd hc hbackslash

/-- The characters of a text are read as parts of a string, by induction on the text. -/
theorem exists_stringParts?_flatMap (text : List Char) :
    ∃ found, (∀ parts rest, stringParts? parts (text.flatMap escape ++ '"' :: rest) =
        some (parts.reverse ++ found, rest)) ∧ characters? found = some text := by
  induction text with
  | nil => exact ⟨[], fun parts rest => by simp [stringParts?], rfl⟩
  | cons c later ih =>
    obtain ⟨part, hpart, hcharacter⟩ := exists_stringParts?_escape c
    obtain ⟨found, hfound, hlater⟩ := ih
    refine ⟨part :: found, fun parts rest => ?_, ?_⟩
    · rw [List.flatMap_cons, List.append_assoc, hpart, hfound, List.reverse_cons,
        List.append_assoc, List.singleton_append]
    · rw [hcharacter, hlater, Option.map_some]

/-- A quoted text is a string, whose characters are those of the text. -/
theorem exists_token?_quote (text : String) :
    ∃ parts, (∀ rest, token? ((quote text).toList ++ rest) = some (.string parts, rest)) ∧
      characters? parts = some text.toList := by
  obtain ⟨parts, hparts, hcharacters⟩ := exists_stringParts?_flatMap text.toList
  refine ⟨parts, fun rest => ?_, hcharacters⟩
  have hquoted : (quote text).toList ++ rest =
      '"' :: (text.toList.flatMap escape ++ '"' :: rest) := by
    simp [quote]
  rw [hquoted, token?, hparts]
  rfl

end NewsScoring.Report
