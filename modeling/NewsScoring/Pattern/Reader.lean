import NewsScoring.Pattern.Bracket
import NewsScoring.Unicode.Alphabetic

/-!
# Reading patterns

`Expression.ofText?` reads a pattern: alternatives between bars, each a sequence of characters,
sets, conditions, groups and repetitions.  There are no look-around and no references back.
-/

namespace NewsScoring.Pattern

open Unicode (isWhiteSpace isAlphabetic isAlphanumeric)

/-! ### Repetitions -/

/-- The digits at the start of the text, and the text behind them; `fuel` bounds their number. -/
def digitsAt (flags : Flags) : Nat → List Char → List Char × List Char
  | 0, text => ([], text)
  | fuel + 1, text =>
    match text with
    | c :: rest =>
      if c.isDigit then
        let (digits, rest) := digitsAt flags fuel (skip flags rest)
        (c :: digits, rest)
      else ([], text)
    | [] => ([], [])

/-- The number at the start of the text, which white space may surround, and the text behind it. -/
def count? (flags : Flags) (text : List Char) : Option (Nat × List Char) :=
  let (digits, rest) := digitsAt flags text.length (text.dropWhile isWhiteSpace)
  let n := digits.foldl (fun n digit => 10 * n + (digit.toNat - '0'.toNat)) 0
  if digits.isEmpty || 0x100000000 ≤ n then none
  else some (n, skip flags (rest.dropWhile isWhiteSpace))

/-- The text without a question mark at its start, which only changes what is preferred. -/
def dropLazyMark : List Char → List Char
  | '?' :: rest => rest
  | text => text

/-- The bounds of a repetition whose opening brace stands before the text, and the text behind
it. -/
def bounds? (flags : Flags) (text : List Char) : Option (Nat × Option Nat × List Char) := do
  let (least, rest) ← count? flags (skip flags text)
  let (most, rest) ← match rest with
    | ',' :: rest =>
      match skip flags rest with
      | '\x7d' :: rest => some (none, '\x7d' :: rest)
      | rest => (count? flags rest).map fun (most, rest) => (some most, rest)
    | rest => some (some least, rest)
  match rest with
  | '\x7d' :: rest =>
    if most.all (least ≤ ·) then return (least, most, dropLazyMark (skip flags rest)) else none
  | _ => none

/-! ### Groups -/

/-- Whether a character may stand in the name of a group, or at its start. -/
def isNameChar (isFirst : Bool) (c : Char) : Bool :=
  if isFirst then c == '_' || isAlphabetic c
  else c == '_' || c == '.' || c == '[' || c == ']' || isAlphanumeric c

/-- The name of a group at the start of the text, and the text behind its closing angle bracket. -/
def groupName? (text : List Char) : Option (List Char × List Char) :=
  match text.takeWhile (· != '>'), text.dropWhile (· != '>') with
  | c :: name, '>' :: rest =>
    if isNameChar true c && name.all (isNameChar false) then some (c :: name, rest) else none
  | _, _ => none

/-- What an opening parenthesis starts. -/
inductive Opening where
  /-- A group that is read under the given flags, possibly with a name. -/
  | group (flags : Flags) (name : Option (List Char))
  /-- Flags for the rest of the group around it. -/
  | directive (flags : Flags)

/-- What the parenthesis before the text starts, and the text behind that. -/
def opening? (flags : Flags) (text : List Char) : Option (Opening × List Char) :=
  match skip flags text with
  | '?' :: '=' :: _ => none
  | '?' :: '!' :: _ => none
  | '?' :: '<' :: '=' :: _ => none
  | '?' :: '<' :: '!' :: _ => none
  | '?' :: 'P' :: '<' :: rest =>
    (groupName? rest).map fun (name, rest) => (.group flags (some name), rest)
  | '?' :: '<' :: rest => (groupName? rest).map fun (name, rest) => (.group flags (some name), rest)
  | '?' :: rest =>
    match Flags.switches? true false [] rest with
    | some (switches, ':', rest) => some (.group (flags.switchAll switches) none, rest)
    | some (switches, _, rest) =>
      if switches.isEmpty then none else some (.directive (flags.switchAll switches), rest)
    | none => none
  | rest => some (.group flags none, rest)

/-! ### Elements -/

/-- The set of the characters that a character stands for; beyond ASCII a byte stands for none. -/
def literalSet? (flags : Flags) (c : Char) (isByte : Bool) : Option CharSet :=
  if flags.unicode then some (if flags.caseless then (CharSet.single c).folded else .single c)
  else if isByte && 0x80 ≤ c.toNat then none
  else some (if flags.caseless && c.toNat < 0x80 then (CharSet.single c).foldedAscii else .single c)

/-- The expression of a single element. -/
def Atom.expression? (flags : Flags) : Atom → Option Expression
  | .literal c isByte => (literalSet? flags c isByte).map fun set => .characters (.flat set 1)
  | .oneOf c => some (.characters c)
  | .condition a => some (.assertion a)

/-- The set that a dot stands for, which is refused where the pattern is not read as Unicode. -/
def dotSet? (flags : Flags) : Option CharSet :=
  if !flags.unicode then none
  else if flags.dotAll then some fun _ => true
  else if flags.crlf then some fun c => c != '\n' && c != '\r'
  else some fun c => c != '\n'

/-- The element at the start of the text, and the text behind it. -/
def element? (flags : Flags) : List Char → Option (Expression × List Char)
  | [] => none
  | '\\' :: rest => do
    let (atom, rest) ← escape? flags rest
    return (← atom.expression? flags, rest)
  | '[' :: rest => (bracket? flags rest).map fun (c, rest) => (.characters c, rest)
  | '.' :: rest =>
    (dotSet? flags).map fun set => (.characters (.flat set CharClass.complementStates), rest)
  | '^' :: rest =>
    some (.assertion (if flags.multiLine then .lineStart flags.crlf else .textStart), rest)
  | '$' :: rest =>
    some (.assertion (if flags.multiLine then .lineEnd flags.crlf else .textEnd), rest)
  | c :: rest => ((Atom.literal c false).expression? flags).map (·, rest)

/-- The repetition whose mark stands at the start of the text, and the text behind it; the outer
option tells whether there is a mark, the inner one whether it is well-formed. -/
def repetitionMark? (flags : Flags) : List Char → Option (Option (Nat × Option Nat × List Char))
  | '?' :: rest => some (some (0, some 1, dropLazyMark rest))
  | '*' :: rest => some (some (0, none, dropLazyMark rest))
  | '+' :: rest => some (some (1, none, dropLazyMark rest))
  | '\x7b' :: rest => some (bounds? flags rest)
  | _ => none

/-! ### Sequences and alternatives -/

/-- The expressions one after the other. -/
def inSequence : List Expression → Expression
  | [] => .empty
  | [e] => e
  | e :: rest => .sequence e (inSequence rest)

/-- The expressions as alternatives. -/
def asAlternatives : List Expression → Expression
  | [] => .empty
  | [e] => e
  | e :: rest => .either e (asAlternatives rest)

/-- One level for several expressions, none for a single one. -/
def level (join : List Expression → Expression) (parts : List Expression) : Expression :=
  match parts with
  | [part] => part
  | [] => .empty
  | parts => .nested (join parts)

/-- The part of a group that has been read. -/
structure Progress where
  /-- The flags at this point. -/
  flags : Flags
  /-- The names of the groups of the pattern so far. -/
  names : List (List Char)
  /-- The parts of the present alternative, last first; flags are parts that cannot be repeated. -/
  parts : List (Option Expression)
  /-- The alternatives before the present one, last first. -/
  alternatives : List Expression

namespace Progress

/-- A group of which nothing has been read. -/
def start (flags : Flags) (names : List (List Char)) : Progress :=
  ⟨flags, names, [], []⟩

/-- With one more part. -/
def push (progress : Progress) (part : Expression) : Progress :=
  { progress with parts := some part :: progress.parts }

/-- The present alternative. -/
def alternative (progress : Progress) : Expression :=
  level inSequence (progress.parts.reverse.map (·.getD .empty))

/-- With the present alternative closed. -/
def nextAlternative (progress : Progress) : Progress :=
  { progress with parts := [], alternatives := progress.alternative :: progress.alternatives }

/-- All that has been read. -/
def expression (progress : Progress) : Expression :=
  level asAlternatives (progress.alternative :: progress.alternatives).reverse

/-- With the last part repeated, if there is one that can be. -/
def repeatLast? (progress : Progress) (least : Nat) (most : Option Nat) : Option Progress :=
  match progress.parts with
  | some part :: rest => some { progress with parts := some (.repetition part least most) :: rest }
  | _ => none

end Progress

/-- Reads a group up to its closing parenthesis, or to the end of the text; `fuel` bounds the number
of parts. -/
def readGroup? : Nat → Progress → List Char → Option (Progress × List Char)
  | 0, _, _ => none
  | fuel + 1, progress, text =>
    match skip progress.flags text with
    | [] => some (progress, [])
    | ')' :: rest => some (progress, ')' :: rest)
    | '|' :: rest => readGroup? fuel progress.nextAlternative rest
    | '(' :: rest =>
      match opening? progress.flags rest with
      | none => none
      | some (.directive flags, rest) =>
        readGroup? fuel { progress with flags, parts := none :: progress.parts } rest
      | some (.group flags name, rest) =>
        if name.any progress.names.contains then none
        else
          match readGroup? fuel (.start flags (name.toList ++ progress.names)) rest with
          | some (inner, ')' :: rest) =>
            let progress := { progress with names := inner.names }
            readGroup? fuel (progress.push (.nested inner.expression)) rest
          | _ => none
    | text =>
      match repetitionMark? progress.flags text with
      | some none => none
      | some (some (least, most, rest)) =>
        match progress.repeatLast? least most with
        | some progress => readGroup? fuel progress rest
        | none => none
      | none =>
        match element? progress.flags text with
        | some (part, rest) => readGroup? fuel (progress.push part) rest
        | none => none

/-- The expression that a pattern denotes. -/
def Expression.ofText? (text : List Char) : Option Expression :=
  match readGroup? (text.length + 1) (.start {} []) text with
  | some (progress, []) => some progress.expression
  | _ => none

end NewsScoring.Pattern
