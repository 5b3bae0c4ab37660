/-!
# Searching by halves

`bisect p xs` is the index at which the elements of `xs` cease to satisfy `p`, where those that do
come first: each step asks one element and keeps the half of the range behind it if it satisfies
`p`, and the half before it otherwise.
-/

namespace NewsScoring

/-- Whether the element at an index satisfies `p`. -/
def holdsAt {β : Type} (p : β → Bool) (xs : List β) (i : Nat) : Bool :=
  (xs[i]?).any p

/-- The last index, of the `size` indices from `base` on, at which `p` holds; `base` itself where
there is none behind it. -/
def bisectFrom {β : Type} (p : β → Bool) (xs : List β) (base size : Nat) : Nat :=
  if size ≤ 1 then base
  else
    let half := size / 2
    bisectFrom p xs (if holdsAt p xs (base + half) then base + half else base) (size - half)
termination_by size

/-- The number of elements before the first that does not satisfy `p`. -/
def bisect {β : Type} (p : β → Bool) (xs : List β) : Nat :=
  let base := bisectFrom p xs 0 xs.length
  if holdsAt p xs base then base + 1 else base

end NewsScoring
