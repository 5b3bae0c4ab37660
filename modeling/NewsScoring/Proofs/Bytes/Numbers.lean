import NewsScoring.Bytes

/-!
# Numbers as bytes

Bytes at the start of others are taken off again (`take?_append`), and a number of as many bytes as
it needs is read back (`toNat_ofNat`).
-/

namespace NewsScoring.Bytes

theorem takeFrom_append (taken data rest : Bytes) :
    takeFrom taken data.length (data ++ rest) = some (taken.reverse ++ data, rest) := by
  induction data generalizing taken with
  | nil =>
    rw [List.length_nil, List.nil_append, takeFrom, List.append_nil]
  | cons byte data ih =>
    rw [List.length_cons, List.cons_append, takeFrom, ih, List.reverse_cons, List.append_assoc,
      List.singleton_append]

theorem take?_append (data rest : Bytes) : take? data.length (data ++ rest) = some (data, rest) :=
  takeFrom_append [] data rest

theorem length_ofNat (count n : Nat) : (ofNat count n).length = count := by
  induction count generalizing n with
  | zero => rfl
  | succ count ih => rw [ofNat, List.length_append, ih, List.length_singleton]

/-- The last bytes of a number stand for its remainder. -/
theorem toNat_ofNat_eq_mod (count n : Nat) : toNat (ofNat count n) = n % Nat.pow 256 count := by
  induction count generalizing n with
  | zero => exact (Nat.mod_one n).symm
  | succ count ih =>
    have hlast : (UInt8.ofNat n).toNat = n % 256 := UInt8.toNat_ofNat'
    have hfront : (ofNat count (n / 256)).foldl (fun n byte => 256 * n + byte.toNat) 0 =
        n / 256 % Nat.pow 256 count := ih (n / 256)
    have hpow : Nat.pow 256 (count + 1) = 256 * Nat.pow 256 count := Nat.mul_comm _ _
    -- The last byte has the remainder by 256, and those in front of it the quotient.
    rw [ofNat, toNat, List.foldl_append, hfront, List.foldl_cons, List.foldl_nil, hlast, hpow,
      Nat.mod_mul]
    omega

theorem toNat_ofNat {count n : Nat} (h : n < Nat.pow 256 count) : toNat (ofNat count n) = n := by
  rw [toNat_ofNat_eq_mod, Nat.mod_eq_of_lt h]

end NewsScoring.Bytes
