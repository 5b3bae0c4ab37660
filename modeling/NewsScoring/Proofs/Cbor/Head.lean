import NewsScoring.Cbor.Head
import NewsScoring.Proofs.Bytes.Numbers

/-!
# Reading back the heads of CBOR items

The head of an item is read back if its number or length fits into eight bytes, and if the code for
floating-point numbers keeps its number (`Head.ofBytes?_toBytes`).
-/

namespace NewsScoring.Cbor

variable {α : Type} {code : FloatCode α}

/-- Whether a number is stored in one of the three formats, and is the one that these bits stand
for. -/
structure FloatCode.Keeps (code : FloatCode α) (x : α) : Prop where
  form_cases : (code.write x).1 = Binary.half ∧ (code.write x).2 < 0x10000 ∨
    (code.write x).1 = Binary.single ∧ (code.write x).2 < 0x100000000 ∨
    (code.write x).1 = Binary.double ∧ (code.write x).2 < 0x10000000000000000
  read_write : code.read (code.write x).1 (code.write x).2 = x

namespace Head

/-- Whether the number or the length of a head has a form. -/
def Fits (code : FloatCode α) : Head α → Prop
  | unsigned n | negative n => n < 0x10000000000000000
  | bytes length | text length | list length | map length => ∀ n ∈ length, n < 0x10000000000000000
  | float x => code.Keeps x
  | tag | boolean _ | null | stop => True

theorem lt_of_mem_some {length : Nat} (h : length < 0x10000000000000000) :
    ∀ n ∈ some length, n < 0x10000000000000000 := by
  rintro n ⟨⟩
  exact h

/-! ### First bytes -/

theorem ofBytes?_firstByte_cons {major small : Nat} (hmajor : major < 8) (hsmall : small < 32)
    (rest : Bytes) :
    ofBytes? code (firstByte major small :: rest) = ofMajor? code major small rest := by
  have hbyte : (firstByte major small).toNat = 32 * major + small := by
    rw [firstByte, UInt8.toNat_ofNat']
    omega
  have hquotient : (32 * major + small) / 32 = major := by omega
  have hremainder : (32 * major + small) % 32 = small := by omega
  rw [ofBytes?, hbyte, hquotient, hremainder]

/-! ### Numbers -/

theorem wideNumber?_append {count n : Nat} (h : n < Nat.pow 256 count) (rest : Bytes) :
    wideNumber? count (Bytes.ofNat count n ++ rest) = some (n, rest) := by
  have htake := Bytes.take?_append (Bytes.ofNat count n) rest
  rw [Bytes.length_ofNat] at htake
  rw [wideNumber?, htake, Option.map_some]
  dsimp only
  rw [Bytes.toNat_ofNat h]

/-- The number behind a major type is read back. -/
theorem exists_numberBytes_eq (major : Nat) {n : Nat} (h : n < 0x10000000000000000) :
    ∃ small tail, numberBytes major n = firstByte major small :: tail ∧ small < 31 ∧
      ∀ rest, number? small (tail ++ rest) = some (n, rest) := by
  unfold numberBytes
  -- A number below 24 is the small number itself; the others follow in the fewest bytes.
  by_cases hsmall : n < 24
  · rw [if_pos hsmall]
    exact ⟨n, [], rfl, by omega, fun rest => if_pos hsmall⟩
  rw [if_neg hsmall]
  split
  · exact ⟨24, _, rfl, by omega, wideNumber?_append (by omega)⟩
  split
  · exact ⟨25, _, rfl, by omega, wideNumber?_append (by omega)⟩
  split
  · exact ⟨26, _, rfl, by omega, wideNumber?_append (by omega)⟩
  · exact ⟨27, _, rfl, by omega, wideNumber?_append h⟩

theorem exists_lengthBytes_eq (major : Nat) {length : Option Nat}
    (h : ∀ n ∈ length, n < 0x10000000000000000) :
    ∃ small tail, lengthBytes major length = firstByte major small :: tail ∧ small < 32 ∧
      ∀ rest, length? small (tail ++ rest) = some (length, rest) := by
  cases length with
  | none => exact ⟨31, [], rfl, by omega, fun rest => if_pos rfl⟩
  | some n =>
    obtain ⟨small, tail, hbytes, hsmall, hnumber⟩ := exists_numberBytes_eq major (h n rfl)
    refine ⟨small, tail, hbytes, by omega, fun rest => ?_⟩
    rw [length?, if_neg (by omega), hnumber]
    rfl

theorem ofBytes?_numberBytes {major n : Nat} (make : Nat → Head α) (hmajor : major < 8)
    (hmake : ∀ small bytes, ofMajor? code major small bytes =
      (number? small bytes).map fun (n, rest) => (make n, rest))
    (h : n < 0x10000000000000000) (rest : Bytes) :
    ofBytes? code (numberBytes major n ++ rest) = some (make n, rest) := by
  obtain ⟨small, tail, hbytes, hsmall, hnumber⟩ := exists_numberBytes_eq major h
  rw [hbytes, List.cons_append, ofBytes?_firstByte_cons hmajor (by omega), hmake, hnumber,
    Option.map_some]

theorem ofBytes?_lengthBytes {major : Nat} {length : Option Nat} (make : Option Nat → Head α)
    (hmajor : major < 8)
    (hmake : ∀ small bytes, ofMajor? code major small bytes =
      (length? small bytes).map fun (length, rest) => (make length, rest))
    (h : ∀ n ∈ length, n < 0x10000000000000000) (rest : Bytes) :
    ofBytes? code (lengthBytes major length ++ rest) = some (make length, rest) := by
  obtain ⟨small, tail, hbytes, hsmall, hlength⟩ := exists_lengthBytes_eq major h
  rw [hbytes, List.cons_append, ofBytes?_firstByte_cons hmajor hsmall, hmake, hlength,
    Option.map_some]

theorem ofBytes?_floatBytes {x : α} (h : code.Keeps x) (rest : Bytes) :
    ofBytes? code (floatBytes (code.write x) ++ rest) = some (float x, rest) := by
  obtain ⟨hform, hread⟩ := h
  have hfloat : ∀ {format : Binary.Format} {count : Nat}, (code.write x).1 = format →
      (code.write x).2 < Nat.pow 256 count →
        float? code format count (Bytes.ofNat count (code.write x).2 ++ rest) =
          some (float x, rest) := by
    intro format count hformat hbits
    rw [float?, wideNumber?_append hbits, Option.map_some, ← hformat]
    dsimp only
    rw [hread]
  unfold floatBytes
  -- The three formats are told apart by the first byte.
  rcases hform with ⟨hformat, hbits⟩ | ⟨hformat, hbits⟩ | ⟨hformat, hbits⟩
  · rw [if_pos hformat, List.cons_append, ofBytes?_firstByte_cons (by omega) (by omega)]
    exact hfloat hformat hbits
  · rw [if_neg (by rw [hformat]; decide), if_pos hformat, List.cons_append,
      ofBytes?_firstByte_cons (by omega) (by omega)]
    exact hfloat hformat hbits
  · rw [if_neg (by rw [hformat]; decide), if_neg (by rw [hformat]; decide), List.cons_append,
      ofBytes?_firstByte_cons (by omega) (by omega)]
    exact hfloat hformat hbits

/-! ### Heads -/

/-- A head that fits is read back. -/
theorem ofBytes?_toBytes {head : Head α} (h : head.Fits code) (rest : Bytes) :
    ofBytes? code (head.toBytes code ++ rest) = some (head, rest) := by
  cases head with
  | unsigned n => exact ofBytes?_numberBytes unsigned (by omega) (fun _ _ => rfl) h rest
  | negative n => exact ofBytes?_numberBytes negative (by omega) (fun _ _ => rfl) h rest
  | bytes length => exact ofBytes?_lengthBytes bytes (by omega) (fun _ _ => rfl) h rest
  | text length => exact ofBytes?_lengthBytes text (by omega) (fun _ _ => rfl) h rest
  | list length => exact ofBytes?_lengthBytes list (by omega) (fun _ _ => rfl) h rest
  | map length => exact ofBytes?_lengthBytes map (by omega) (fun _ _ => rfl) h rest
  | tag => exact ofBytes?_numberBytes (fun _ => tag) (by omega) (fun _ _ => rfl) (by omega) rest
  | boolean value =>
    cases value with
    | false => exact ofBytes?_firstByte_cons (by omega : 7 < 8) (by omega : 20 < 32) rest
    | true => exact ofBytes?_firstByte_cons (by omega : 7 < 8) (by omega : 21 < 32) rest
  | null => exact ofBytes?_firstByte_cons (by omega : 7 < 8) (by omega : 22 < 32) rest
  | float x => exact ofBytes?_floatBytes h rest
  | stop => exact ofBytes?_firstByte_cons (by omega : 7 < 8) (by omega : 31 < 32) rest

end Head

end NewsScoring.Cbor
