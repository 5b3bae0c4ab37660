import NewsScoring.Pattern.Escape

/-!
# Sets in brackets

A set in brackets lists characters, ranges, named sets and further sets in brackets; `^` in front
takes the characters outside the list.  Lists are joined by `&&`, `--` and `~~`, from left to right,
to the characters of both, of the first alone, and of exactly one of them.
-/

namespace NewsScoring.Pattern

/-- The class of the listed items, which are given last first. -/
def ofItems (items : List CharClass) : CharClass :=
  match items with
  | [] => .flat .none 1
  | [item] => item
  | items => ⟨.unions (items.map CharClass.set),
      items.foldl (fun levels item => max levels item.levels) 0 + 1,
      items.foldl (fun states item => states + item.states) 0⟩

/-- A set with the case variants of its characters, if the pattern asks for them. -/
def foldSet (flags : Flags) (set : CharSet) : CharSet :=
  if flags.caseless then (if flags.unicode then set.folded else set.foldedAscii) else set

/-- A set as it counts, or the characters outside it.  Where the pattern is not read as Unicode, no
character beyond ASCII may belong. -/
def closeSet? (flags : Flags) (negated : Bool) (set : CharSet) : Option CharSet :=
  let set := if negated then (foldSet flags set).complement else foldSet flags set
  if flags.unicode then some set
  else if set.isAscii then some fun c => c.toNat < 0x80 && set c
  else none

/-- The class in brackets of a listed class, or of the characters outside it. -/
def closeClass? (flags : Flags) (negated : Bool) (c : CharClass) : Option CharClass :=
  (closeSet? flags negated c.set).map fun set =>
    ⟨set, c.levels + 1, c.states + if negated then CharClass.complementStates else 0⟩

/-- Two lists joined by the operator of a mark. -/
def joinSets (flags : Flags) (operator : Char) (a b : CharClass) : CharClass :=
  let s := foldSet flags a.set
  let t := foldSet flags b.set
  let set : CharSet := match operator with
    | '&' => fun c => s c && t c
    | '-' => fun c => s c && !t c
    | _ => fun c => s c != t c
  ⟨set, max a.levels b.levels + 1, a.states + b.states⟩

/-- The list read so far joined to those before it. -/
def joinPending (flags : Flags) (pending : Option (Char × CharClass)) (items : List CharClass) :
    CharClass :=
  match pending with
  | some (operator, before) => joinSets flags operator before (ofItems items)
  | none => ofItems items

/-! ### Items -/

/-- A character as a member of a set; beyond ASCII it must be written as a byte where the pattern is
not read as Unicode. -/
def memberChar? (flags : Flags) : Atom → Option Char
  | .literal c isByte => if flags.unicode || isByte || c.toNat < 0x80 then some c else none
  | _ => none

/-- A single item of a set. -/
def memberClass? (flags : Flags) (atom : Atom) : Option CharClass :=
  match atom with
  | .oneOf c => some c
  | .literal _ _ => (memberChar? flags atom).map CharClass.single
  | .condition _ => none

/-- A character or an escape in brackets, and the text behind it. -/
def member? (flags : Flags) : List Char → Option (Atom × List Char)
  | [] => none
  | '\\' :: rest => escape? flags rest
  | c :: rest => some (.literal c false, rest)

/-- Whether a hyphen at the start of the text makes a range. -/
def startsRange (flags : Flags) : List Char → Bool
  | '-' :: rest =>
    match skip flags rest with
    | ']' :: _ => false
    | '-' :: _ => false
    | _ => true
  | _ => false

/-- An item or a range of characters, and the text behind it. -/
def item? (flags : Flags) (text : List Char) : Option (CharClass × List Char) := do
  let (first, rest) ← member? flags text
  let rest := skip flags rest
  if rest.isEmpty then none
  if startsRange flags rest then
    let (last, rest) ← member? flags (skip flags (rest.drop 1))
    let low ← memberChar? flags first
    let high ← memberChar? flags last
    let states := if high.toNat < 0x80 then 1 else 8
    if low ≤ high then return (.flat (.range low high) states, rest) else none
  else return (← memberClass? flags first, rest)

/-- The name of an ASCII set between colons at the start of the text, with whether it is negated,
and the text behind its closing bracket. -/
def asciiName? : List Char → Option (Bool × CharSet × List Char)
  | ':' :: rest => do
    let negated := rest.head? == some '^'
    let rest := if negated then rest.drop 1 else rest
    let set ← CharSet.ascii? (String.ofList (rest.takeWhile (· != ':')))
    match rest.dropWhile (· != ':') with
    | ':' :: ']' :: rest => some (negated, set, rest)
    | _ => none
  | _ => none

/-! ### Whole sets -/

/-- The hyphens at the start of the text as items, after those of `items`, and the text behind
them. -/
def leadingHyphens (flags : Flags) : Nat → List CharClass → List Char →
    List CharClass × List Char
  | fuel + 1, items, '-' :: rest =>
    leadingHyphens flags fuel (.single '-' :: items) (skip flags rest)
  | _, items, text => (items, text)

/-- What follows an opening bracket: whether the set is negated, and the items at its start that
stand for themselves, which are hyphens, or a closing bracket. -/
def openBracket (flags : Flags) (text : List Char) : Bool × List CharClass × List Char :=
  let text := skip flags text
  let negated := text.head? == some '^'
  let text := if negated then skip flags (text.drop 1) else text
  match leadingHyphens flags text.length [] text with
  | ([], ']' :: rest) => (negated, [.single ']'], skip flags rest)
  | (items, rest) => (negated, items, rest)

/-- The rest of a set whose items so far are given, last first, up to its closing bracket, and the
text behind that; `fuel` bounds the number of items. -/
def bracketRest? (flags : Flags) : Nat → Option (Char × CharClass) → List CharClass → List Char →
    Option (CharClass × List Char)
  | 0, _, _, _ => none
  | fuel + 1, pending, items, text =>
    match skip flags text with
    | [] => none
    | ']' :: rest => some (joinPending flags pending items, rest)
    | '&' :: '&' :: rest =>
      bracketRest? flags fuel (some ('&', joinPending flags pending items)) [] rest
    | '-' :: '-' :: rest =>
      bracketRest? flags fuel (some ('-', joinPending flags pending items)) [] rest
    | '~' :: '~' :: rest =>
      bracketRest? flags fuel (some ('~', joinPending flags pending items)) [] rest
    | '[' :: rest =>
      -- what is no named set between colons is a set in brackets of its own
      match asciiName? rest with
      | some (negated, set, rest) => do
        let set ← closeSet? flags negated set
        bracketRest? flags fuel pending (.flat set 2 :: items) rest
      | none => do
        let (negated, inner, rest) := openBracket flags rest
        let (set, rest) ← bracketRest? flags fuel none inner rest
        let closed ← closeClass? flags negated set
        bracketRest? flags fuel pending (closed :: items) rest
    | text => do
      let (item, rest) ← item? flags text
      bracketRest? flags fuel pending (item :: items) rest

/-- The set whose opening bracket stands before the text, and the text behind it. -/
def bracket? (flags : Flags) (text : List Char) : Option (CharClass × List Char) := do
  let (negated, items, rest) := openBracket flags text
  let (set, rest) ← bracketRest? flags (rest.length + 1) none items rest
  return (← closeClass? flags negated set, rest)

end NewsScoring.Pattern
