import Mathlib.Data.List.Forall2
import NewsScoring.Json.Value
import NewsScoring.Proofs.Json.Number

/-!
# Reading written JSON

A text is read in two steps, and what is written is followed through both: it is cut into tokens
(`IsCut`), from which a value is read (`Reads`).  Values are written one inside the other: if the
items of an array or the members of an object are written (`IsWritten`), then so is the whole
(`isWritten_array`, `isWritten_object`), and a value that is written is read back
(`IsWritten.ofText?_eq`).
-/

namespace NewsScoring.Json

/-! ### Cutting a text into tokens -/

/-- Whether a text is cut into tokens, each of which takes a character at least. -/
inductive AreTokensOf : List Char → List Token → Prop
  | nil : AreTokensOf [] []
  | cons {text rest : List Char} {token : Token} {tokens : List Token}
    (htoken : token? text = some (token, rest)) (hlength : rest.length < text.length)
    (hrest : AreTokensOf rest tokens) : AreTokensOf text (token :: tokens)

/-- No token starts with a blank. -/
theorem dropWhile_isBlank_of_token? {text : List Char} {found : Token × List Char}
    (h : token? text = some found) : text.dropWhile isBlank = text := by
  cases text with
  | nil => rfl
  | cons c later =>
    rw [List.dropWhile_cons, if_neg]
    intro hblank
    simp only [isBlank, Bool.or_eq_true, beq_iff_eq] at hblank
    rcases hblank with ((rfl | rfl) | rfl) | rfl <;> cases h

theorem AreTokensOf.length_le {text : List Char} {tokens : List Token}
    (h : AreTokensOf text tokens) : tokens.length ≤ text.length := by
  induction h with
  | nil => exact Nat.le_refl 0
  | cons _ hlength _ ih => exact Nat.succ_le_of_lt (ih.trans_lt hlength)

theorem AreTokensOf.tokensFrom?_eq {text : List Char} {tokens : List Token}
    (h : AreTokensOf text tokens) {fuel : ℕ} (hfuel : tokens.length < fuel) (found : List Token) :
    tokensFrom? fuel found text = some (found.reverse ++ tokens) := by
  induction h generalizing fuel found with
  | nil =>
    obtain ⟨fuel, rfl⟩ := Nat.exists_eq_add_one_of_ne_zero (Nat.ne_zero_of_lt hfuel)
    rw [List.append_nil]
    rfl
  | @cons text rest token tokens htoken hlength hrest ih =>
    obtain ⟨fuel, rfl⟩ := Nat.exists_eq_add_one_of_ne_zero (Nat.ne_zero_of_lt hfuel)
    have hne : text ≠ [] := List.ne_nil_of_length_pos (Nat.zero_lt_of_lt hlength)
    rw [tokensFrom?, dropWhile_isBlank_of_token? htoken]
    split
    · exact absurd rfl hne
    · simp only [htoken]
      rw [ih (Nat.lt_of_succ_lt_succ hfuel), List.reverse_cons, List.append_assoc,
        List.singleton_append]

theorem AreTokensOf.tokens?_eq {text : List Char} {tokens : List Token}
    (h : AreTokensOf text tokens) : tokens? text = some tokens :=
  h.tokensFrom?_eq (Nat.lt_succ_of_le h.length_le) []

/-- Whether a text before a mark, or at the end, is cut into tokens. -/
def IsCut (text : List Char) (tokens : List Token) : Prop :=
  ∀ ⦃rest : List Char⦄ ⦃later : List Token⦄, StartsWithMark rest → AreTokensOf rest later →
    AreTokensOf (text ++ rest) (tokens ++ later)

theorem startsWithMark_cons {c : Char} (h : isMark c = true) (rest : List Char) :
    StartsWithMark (c :: rest) := by
  rintro d hd
  cases hd
  exact h

theorem token?_of_isMark {c : Char} (h : isMark c = true) (rest : List Char) :
    token? (c :: rest) = some (.mark c, rest) := by
  simp only [isMark, Bool.or_eq_true, beq_iff_eq] at h
  rcases h with ((((rfl | rfl) | rfl) | rfl) | rfl) | rfl <;> rfl

theorem AreTokensOf.mark {c : Char} (hc : isMark c = true) {rest : List Char}
    {later : List Token} (h : AreTokensOf rest later) :
    AreTokensOf (c :: rest) (.mark c :: later) :=
  .cons (token?_of_isMark hc rest) (Nat.lt_succ_self _) h

/-- A text that is cut stands between two marks as before. -/
theorem IsCut.between {text : List Char} {tokens : List Token} (h : IsCut text tokens)
    {c d : Char} (hc : isMark c = true) (hd : isMark d = true) :
    IsCut (c :: text ++ [d]) (.mark c :: tokens ++ [.mark d]) := by
  intro rest later hrest hlater
  rw [List.append_assoc, List.append_assoc, List.cons_append, List.cons_append]
  exact .mark hc (h (startsWithMark_cons hd rest) (.mark hd hlater))

/-- Two texts that are cut are so with a mark between them. -/
theorem IsCut.join {text text' : List Char} {tokens tokens' : List Token} (h : IsCut text tokens)
    (h' : IsCut text' tokens') {c : Char} (hc : isMark c = true) :
    IsCut (text ++ c :: text') (tokens ++ .mark c :: tokens') := by
  intro rest later hrest hlater
  rw [List.append_assoc, List.append_assoc]
  exact h (startsWithMark_cons hc _) (.mark hc (h' hrest hlater))

/-- A text that is one token, whatever follows, is cut to it. -/
theorem isCut_of_token? {text : List Char} {token : Token} (hne : text ≠ [])
    (h : ∀ rest, token? (text ++ rest) = some (token, rest)) : IsCut text [token] := by
  intro rest later _ hlater
  refine .cons (h rest) ?_ hlater
  rw [List.length_append]
  exact Nat.lt_add_of_pos_left (List.length_pos_of_ne_nil hne)

/-! ### Reading a value from tokens -/

/-- Whether a value is read from tokens, whatever is behind them. -/
structure Reads (tokens : List Token) (value : Value) : Prop where
  ne_nil : tokens ≠ []
  readValue?_append : ∀ {fuel : ℕ}, tokens.length ≤ fuel → ∀ rest : List Token,
    readValue? fuel (tokens ++ rest) = some (value, rest)

/-- Whether values are read as the items of an array that is not empty. -/
structure ReadsItems (tokens : List Token) (items : List Value) : Prop where
  not_closed : ∀ rest later, tokens ++ rest ≠ .mark ']' :: later
  readItems?_append : ∀ {fuel : ℕ}, tokens.length < fuel → ∀ found rest,
    readItems? fuel found (tokens ++ .mark ']' :: rest) = some (found.reverse ++ items, rest)

/-- Whether keys and values are read as the members of an object that is not empty. -/
structure ReadsMembers (tokens : List Token) (members : List (List StringPart × Value)) :
    Prop where
  not_closed : ∀ rest later, tokens ++ rest ≠ .mark '\x7d' :: later
  readMembers?_append : ∀ {fuel : ℕ}, tokens.length < fuel → ∀ found rest,
    readMembers? fuel found (tokens ++ .mark '\x7d' :: rest) =
      some (found.reverse ++ members, rest)

section

variable {tokens later : List Token} {value : Value} {items : List Value} {key : List StringPart}
  {members : List (List StringPart × Value)}

theorem readValue?_mark {c : Char} (hc : c ≠ '[') (hc' : c ≠ '\x7b') (fuel : ℕ)
    (rest : List Token) : readValue? fuel (.mark c :: rest) = none := by
  cases fuel with
  | zero => rfl
  | succ fuel =>
    unfold readValue?
    rw [if_neg hc, if_neg hc']

theorem readValue?_bracket {rest : List Token} (h : ∀ later, rest ≠ .mark ']' :: later)
    (fuel : ℕ) : readValue? (fuel + 1) (.mark '[' :: rest) =
      (readItems? fuel [] rest).map fun (items, rest) => (.array items, rest) := by
  unfold readValue?
  rw [if_pos rfl]
  split
  · exact absurd rfl (h _)
  · rfl

theorem readValue?_brace {rest : List Token} (h : ∀ later, rest ≠ .mark '\x7d' :: later)
    (fuel : ℕ) : readValue? (fuel + 1) (.mark '\x7b' :: rest) =
      (readMembers? fuel [] rest).map fun (members, rest) => (.object members, rest) := by
  unfold readValue?
  rw [if_neg (by decide), if_pos rfl]
  split
  · exact absurd rfl (h _)
  · rfl

/-- A value does not start with the mark that ends an array. -/
theorem Reads.not_closed (h : Reads tokens value) (rest later : List Token) :
    tokens ++ rest ≠ .mark ']' :: later := by
  intro heq
  have hread := h.readValue?_append (Nat.le_refl _) rest
  rw [heq, readValue?_mark (by decide) (by decide)] at hread
  cases hread

/-! ### Items -/

theorem Reads.readsItems_singleton (h : Reads tokens value) : ReadsItems tokens [value] := by
  refine ⟨h.not_closed, fun {fuel} hfuel found rest => ?_⟩
  obtain ⟨fuel, rfl⟩ := Nat.exists_eq_add_one_of_ne_zero (Nat.ne_zero_of_lt hfuel)
  rw [readItems?, h.readValue?_append (Nat.le_of_lt_succ hfuel)]
  simp

theorem Reads.readsItems_cons (h : Reads tokens value) (hlater : ReadsItems later items) :
    ReadsItems (tokens ++ .mark ',' :: later) (value :: items) := by
  refine ⟨fun rest => ?_, fun {fuel} hfuel found rest => ?_⟩
  · rw [List.append_assoc]
    exact h.not_closed _
  · obtain ⟨fuel, rfl⟩ := Nat.exists_eq_add_one_of_ne_zero (Nat.ne_zero_of_lt hfuel)
    have hpos := List.length_pos_of_ne_nil h.ne_nil
    rw [List.length_append, List.length_cons] at hfuel
    rw [List.append_assoc, readItems?, h.readValue?_append (by omega)]
    simp [hlater.readItems?_append (show later.length < fuel by omega)]

theorem reads_emptyArray : Reads [.mark '[', .mark ']'] (.array []) := by
  refine ⟨by simp, fun {fuel} hfuel rest => ?_⟩
  obtain ⟨fuel, rfl⟩ := Nat.exists_eq_add_of_le hfuel
  rw [Nat.add_comm]
  rfl

theorem ReadsItems.array (h : ReadsItems tokens items) :
    Reads (.mark '[' :: tokens ++ [.mark ']']) (.array items) := by
  refine ⟨by simp, fun {fuel} hfuel rest => ?_⟩
  rw [List.length_append, List.length_cons] at hfuel
  obtain ⟨fuel, rfl⟩ := Nat.exists_eq_add_one_of_ne_zero (by omega : fuel ≠ 0)
  rw [List.append_assoc, List.cons_append, readValue?_bracket (h.not_closed _),
    List.singleton_append, h.readItems?_append (by simp at hfuel; omega)]
  rfl

/-! ### Members -/

theorem Reads.readsMembers_singleton (h : Reads tokens value) :
    ReadsMembers (.string key :: .mark ':' :: tokens) [(key, value)] := by
  refine ⟨by simp, fun {fuel} hfuel found rest => ?_⟩
  obtain ⟨fuel, rfl⟩ := Nat.exists_eq_add_one_of_ne_zero (Nat.ne_zero_of_lt hfuel)
  rw [List.length_cons, List.length_cons] at hfuel
  rw [List.cons_append, List.cons_append, readMembers?, h.readValue?_append (by omega)]
  simp

theorem Reads.readsMembers_cons (h : Reads tokens value) (hlater : ReadsMembers later members) :
    ReadsMembers (.string key :: .mark ':' :: tokens ++ .mark ',' :: later)
      ((key, value) :: members) := by
  refine ⟨by simp, fun {fuel} hfuel found rest => ?_⟩
  obtain ⟨fuel, rfl⟩ := Nat.exists_eq_add_one_of_ne_zero (Nat.ne_zero_of_lt hfuel)
  rw [List.length_append, List.length_cons, List.length_cons, List.length_cons] at hfuel
  rw [List.append_assoc, List.cons_append, List.cons_append, readMembers?,
    h.readValue?_append (by omega)]
  simp [hlater.readMembers?_append (show later.length < fuel by omega)]

theorem ReadsMembers.object (h : ReadsMembers tokens members) :
    Reads (.mark '\x7b' :: tokens ++ [.mark '\x7d']) (.object members) := by
  refine ⟨by simp, fun {fuel} hfuel rest => ?_⟩
  rw [List.length_append, List.length_cons] at hfuel
  obtain ⟨fuel, rfl⟩ := Nat.exists_eq_add_one_of_ne_zero (by omega : fuel ≠ 0)
  rw [List.append_assoc, List.cons_append, readValue?_brace (h.not_closed _),
    List.singleton_append, h.readMembers?_append (by simp at hfuel; omega)]
  rfl

end

/-! ### Writing and reading -/

/-- Whether a text writes a value: it is cut into tokens from which the value is read. -/
def IsWritten (text : List Char) (value : Value) : Prop :=
  ∃ tokens, IsCut text tokens ∧ Reads tokens value

/-- Whether a text writes a member of an object. -/
def IsWrittenMember (text : List Char) (member : List StringPart × Value) : Prop :=
  ∃ key value, text = key ++ ':' :: value ∧ IsCut key [.string member.1] ∧
    IsWritten value member.2

/-- A value that is written is read back. -/
theorem IsWritten.ofText?_eq {text : List Char} {value : Value} (h : IsWritten text value) :
    Value.ofText? text = some value := by
  obtain ⟨tokens, hcut, hreads⟩ := h
  have hmark : StartsWithMark [] := by
    rintro c hc
    cases hc
  have htokens := (hcut hmark .nil).tokens?_eq
  rw [List.append_nil, List.append_nil] at htokens
  have hvalue := hreads.readValue?_append (Nat.le_succ _) []
  rw [List.append_nil] at hvalue
  simp [Value.ofText?, htokens, hvalue]

theorem isWritten_number {text : List Char} {r : ℚ} (h : IsNumber text r) :
    IsWritten text (.number text) := by
  refine ⟨[.number text], fun rest later hrest hlater => ?_, by simp, fun {fuel} hfuel rest => ?_⟩
  · refine .cons (h.token?_append hrest) ?_ hlater
    rw [List.length_append]
    exact Nat.lt_add_of_pos_left (List.length_pos_of_ne_nil h.ne_nil)
  · obtain ⟨fuel, rfl⟩ := Nat.exists_eq_add_one_of_ne_zero (Nat.ne_zero_of_lt hfuel)
    rfl

theorem isWritten_null : IsWritten "null".toList .null := by
  refine ⟨[.null], isCut_of_token? (by simp) fun _ => rfl, by simp, fun {fuel} hfuel rest => ?_⟩
  obtain ⟨fuel, rfl⟩ := Nat.exists_eq_add_one_of_ne_zero (Nat.ne_zero_of_lt hfuel)
  rfl

theorem isWritten_string {text : List Char} {parts : List StringPart}
    (h : IsCut text [.string parts]) : IsWritten text (.string parts) := by
  refine ⟨_, h, by simp, fun {fuel} hfuel rest => ?_⟩
  obtain ⟨fuel, rfl⟩ := Nat.exists_eq_add_one_of_ne_zero (Nat.ne_zero_of_lt hfuel)
  rfl

/-- Items that are written are so as an array, by induction on the items. -/
theorem isWritten_array {texts : List (List Char)} {items : List Value}
    (h : List.Forall₂ IsWritten texts items) :
    IsWritten ('[' :: [','].intercalate texts ++ [']']) (.array items) := by
  -- An empty array ends before an item is read, and is a case of its own.
  by_cases hne : items = []
  · obtain rfl := hne
    cases h
    have hcut : IsCut ['[', ']'] [.mark '[', .mark ']'] :=
      fun _ _ _ hlater => .mark rfl (.mark rfl hlater)
    exact ⟨_, hcut, reads_emptyArray⟩
  · obtain ⟨tokens, hcut, hreads⟩ : ∃ tokens, IsCut ([','].intercalate texts) tokens ∧
        ReadsItems tokens items := by
      induction h with
      | nil => exact absurd rfl hne
      | @cons text item texts items hfirst hlater ih =>
        obtain ⟨tokens, hcut, hreads⟩ := hfirst
        cases hlater with
        | nil =>
          rw [List.intercalate_singleton]
          exact ⟨tokens, hcut, hreads.readsItems_singleton⟩
        | cons =>
          obtain ⟨later, hcut', hreads'⟩ := ih (List.cons_ne_nil _ _)
          refine ⟨_, ?_, hreads.readsItems_cons hreads'⟩
          rw [List.intercalate_cons_cons, List.append_assoc, List.singleton_append]
          exact hcut.join hcut' rfl
    exact ⟨_, hcut.between rfl rfl, hreads.array⟩

/-- Members that are written are so as an object, by induction on the members. -/
theorem isWritten_object {texts : List (List Char)} {members : List (List StringPart × Value)}
    (h : List.Forall₂ IsWrittenMember texts members) (hne : members ≠ []) :
    IsWritten ('\x7b' :: [','].intercalate texts ++ ['\x7d']) (.object members) := by
  obtain ⟨tokens, hcut, hreads⟩ : ∃ tokens, IsCut ([','].intercalate texts) tokens ∧
      ReadsMembers tokens members := by
    induction h with
    | nil => exact absurd rfl hne
    | @cons text member texts members hfirst hlater ih =>
      obtain ⟨key, value, rfl, hkey, tokens, hcut, hreads⟩ := hfirst
      have hmember : IsCut (key ++ ':' :: value) (.string member.1 :: .mark ':' :: tokens) :=
        hkey.join hcut rfl
      cases hlater with
      | nil =>
        rw [List.intercalate_singleton]
        exact ⟨_, hmember, hreads.readsMembers_singleton⟩
      | cons =>
        obtain ⟨later, hcut', hreads'⟩ := ih (List.cons_ne_nil _ _)
        refine ⟨_, ?_, hreads.readsMembers_cons hreads'⟩
        rw [List.intercalate_cons_cons, List.append_assoc, List.singleton_append]
        exact hmember.join hcut' rfl
  exact ⟨_, hcut.between rfl rfl, hreads.object⟩

end NewsScoring.Json
