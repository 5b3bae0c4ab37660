/-!
# White space

`isWhiteSpace` is the property White_Space of the Unicode character database: twenty-five characters
in ten ranges.
-/

namespace NewsScoring.Unicode

/-- Whether a character has the property White_Space. -/
def isWhiteSpace (c : Char) : Bool :=
  let n := c.toNat
  if n < 128 then (9 ≤ n && n ≤ 13) || n == 32
  else n == 0x85 || n == 0xA0 || n == 0x1680 || (0x2000 ≤ n && n ≤ 0x200A) || n == 0x2028 ||
    n == 0x2029 || n == 0x202F || n == 0x205F || n == 0x3000

end NewsScoring.Unicode
