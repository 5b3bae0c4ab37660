import NewsScoring.Pattern.Expression

/-!
# Searching a text

The positions of a text are the gaps between its characters, its ends included.  A set of positions
is a number whose bits tell which positions belong.  An expression leads from each position to those
at which a part of the text that fits it may end; `Track` is an expression seen this way, with the
sets of characters and the conditions replaced by sets of positions of one text.  A text has a part
that fits if some position is reached when all positions are starts.
-/

namespace NewsScoring.Pattern

/-- A set of positions, one bit for each. -/
abbrev Positions := Nat

/-- The positions at which a list has `true`. -/
def Positions.ofBits (bits : List Bool) : Positions :=
  bits.foldr (fun bit positions => 2 * positions + bit.toNat) 0

/-- An expression on the positions of a text. -/
inductive Track where
  /-- Leads from the given positions to the next ones. -/
  | advance (positions : Positions)
  /-- Leads from the given positions nowhere else, and from other positions nowhere. -/
  | remain (positions : Positions)
  | sequence (a b : Track)
  | either (a b : Track)
  | repetition (track : Track) (least : Nat) (most : Option Nat)

/-! ### From expressions to tracks -/

/-- The characters before and after each position of a text that follows `before`. -/
def contexts (before : Option Char) : List Char → List (Option Char × Option Char)
  | [] => [(before, none)]
  | c :: rest => (before, some c) :: contexts (some c) rest

/-- Whether a condition holds between two characters. -/
def Assertion.holds (before after : Option Char) : Assertion → Bool
  | textStart => before.isNone
  | textEnd => after.isNone
  | lineStart crlf =>
    before.isNone || before == some '\n' || (crlf && before == some '\r' && after != some '\n')
  | lineEnd crlf =>
    if crlf then after.isNone || after == some '\r' || (after == some '\n' && before != some '\r')
    else after.isNone || after == some '\n'
  | wordBoundary isWord => before.any isWord != after.any isWord
  | notWordBoundary isWord => before.any isWord == after.any isWord
  | wordStart isWord => !before.any isWord && after.any isWord
  | wordEnd isWord => before.any isWord && !after.any isWord
  | wordStartHalf isWord => !before.any isWord
  | wordEndHalf isWord => !after.any isWord

/-- An expression on the positions of a text. -/
def Expression.track (text : List Char) : Expression → Track
  | empty => .remain (Positions.ofBits ((contexts none text).map fun _ => true))
  | characters c => .advance (Positions.ofBits (text.map c.set))
  | assertion condition =>
    .remain (Positions.ofBits ((contexts none text).map fun (before, after) =>
      condition.holds before after))
  | sequence a b => .sequence (a.track text) (b.track text)
  | either a b => .either (a.track text) (b.track text)
  | repetition e least most => .repetition (e.track text) least most
  | nested e => e.track text

/-! ### Following tracks -/

/-- The positions reached by `n` steps, unless further steps change nothing. -/
def iterate (step : Positions → Positions) : Nat → Positions → Positions
  | 0, positions => positions
  | n + 1, positions =>
    let next := step positions
    if next == positions then positions else iterate step n next

/-- The positions in `reached`, and those reached from `fresh` by at most `n` steps. -/
def reach (step : Positions → Positions) : Nat → Positions → Positions → Positions
  | 0, reached, _ => reached
  | n + 1, reached, fresh =>
    if fresh == 0 then reached
    else
      let next := step fresh
      -- only positions that were not reached before are followed further
      reach step n (reached ||| next) ((reached ||| next) ^^^ reached)

/-- The positions that a track leads to from the given ones, in a text of `length` characters. -/
def Track.ends (length : Nat) : Track → Positions → Positions
  | advance positions, starts => (starts &&& positions) <<< 1
  | remain positions, starts => starts &&& positions
  | sequence a b, starts => b.ends length (a.ends length starts)
  | either a b, starts => a.ends length starts ||| b.ends length starts
  | repetition track least most, starts =>
    let started := iterate (track.ends length) least starts
    let more := match most with
      | some most => most - least
      | none => length + 1
    reach (track.ends length) more started started

/-- Whether a part of a text fits an expression. -/
def Expression.occursIn (e : Expression) (text : List Char) : Bool :=
  (e.track text).ends text.length (Nat.pow 2 (text.length + 1) - 1) != 0

end NewsScoring.Pattern
