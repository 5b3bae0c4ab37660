/-!
# Digits

The values of digits, and the number that a row of them stands for.
-/

namespace NewsScoring.Text

/-- The value of a hexadecimal digit. -/
def hexValue? (c : Char) : Option Nat :=
  if c.isDigit then some (c.toNat - '0'.toNat)
  else if 'a' ≤ c ∧ c ≤ 'f' then some (c.toNat - 'a'.toNat + 10)
  else if 'A' ≤ c ∧ c ≤ 'F' then some (c.toNat - 'A'.toNat + 10)
  else none

/-- The value of a digit of a base of at most sixteen. -/
def digitValue? (base : Nat) (c : Char) : Option Nat :=
  (hexValue? c).filter (· < base)

/-- The number whose digits in a base have the given values. -/
def numberIn (base : Nat) (values : List Nat) : Nat :=
  values.foldl (fun n value => base * n + value) 0

/-- The number that digits of a base stand for, if there are any. -/
def number? (base : Nat) (digits : List Char) : Option Nat := do
  if digits.isEmpty then none
  return numberIn base (← digits.mapM (digitValue? base))

end NewsScoring.Text
