import NewsScoring.KeyedList

/-!
# The best of a sequence of offers

A `RankedList` keeps the items with the highest scores among those offered to it, at most as many as
its capacity.  Items stand by descending score; equal scores stand in the order in which the items
came in.  A listed item that is offered again gets its new score, and keeps its place among equals.
A full list takes a new item only for one that ranks strictly lower.

The list holds its items twice: `ranked` has them in order, `index` has the rank of each item.
-/

namespace NewsScoring

/-- The place of an item: its score, and the number of items that had come in before it. -/
structure Rank (ν : Type) where
  score : ν
  sequence : Nat

variable {ν : Type} [LE ν] [DecidableLE ν]

/-- Whether the first rank stands strictly before the second: by a higher score, or by an equal
score and an earlier arrival. -/
def Rank.precedes (a b : Rank ν) : Bool :=
  if a.score ≤ b.score then decide (b.score ≤ a.score) && decide (a.sequence < b.sequence)
  else true

/-- Whether neither of two ranks stands before the other. -/
def Rank.ties (a b : Rank ν) : Bool :=
  !a.precedes b && !b.precedes a

/-- At most `capacity` items with their scores. -/
structure RankedList (κ ν : Type) where
  capacity : Nat
  /-- The number of items that have come in so far, rejected ones included. -/
  arrivals : Nat
  /-- The items by rank. -/
  ranked : List (Rank ν × κ)
  /-- The rank of each item. -/
  index : KeyedList κ (Rank ν)

namespace RankedList

variable {κ : Type} [DecidableEq κ]

/-- The list that holds no item yet. -/
def empty (capacity : Nat) : RankedList κ ν :=
  ⟨capacity, 0, [], KeyedList.empty⟩

/-- The ranked items with one more, put before the first that it does not follow. -/
def insertRanked (rank : Rank ν) (item : κ) : List (Rank ν × κ) → List (Rank ν × κ)
  | [] => [(rank, item)]
  | entry :: rest =>
    if entry.1.precedes rank then entry :: insertRanked rank item rest
    else (rank, item) :: entry :: rest

/-- The ranked items without the one of the given rank. -/
def removeRanked (rank : Rank ν) (ranked : List (Rank ν × κ)) : List (Rank ν × κ) :=
  ranked.eraseP (·.1.ties rank)

/-- The list with an item at a rank. -/
def place (list : RankedList κ ν) (item : κ) (rank : Rank ν) : RankedList κ ν :=
  { list with
    ranked := insertRanked rank item list.ranked
    index := list.index.put item rank }

/-- The list without its last item. -/
def dropLast (list : RankedList κ ν) : RankedList κ ν :=
  { list with
    ranked := list.ranked.dropLast
    index := match list.ranked.getLast? with
      | some (_, item) => list.index.erase item
      | none => list.index }

/-- Whether a new item of the given rank finds a place. -/
def admits (list : RankedList κ ν) (rank : Rank ν) : Bool :=
  if list.ranked.length < list.capacity then true
  else match list.ranked.getLast? with
    | some (lowest, _) => decide (0 < list.capacity) && rank.precedes lowest
    | none => false

/-- Offers an item with a score; the flag tells whether the item is listed afterwards.  A score that
is not at most itself, such as NaN, is no offer. -/
def add (list : RankedList κ ν) (item : κ) (score : ν) : Bool × RankedList κ ν :=
  if ¬score ≤ score then (false, list)
  else match list.index.find? item with
    | some previous =>
      -- the item keeps the number that it got when it came in
      let rank : Rank ν := ⟨score, previous.sequence⟩
      (true, { list with ranked := removeRanked previous list.ranked }.place item rank)
    | none =>
      -- an item that has been dropped before counts as a new arrival
      let rank : Rank ν := ⟨score, list.arrivals⟩
      let arrived := { list with arrivals := list.arrivals + 1 }
      if !list.admits rank then (false, arrived)
      else if list.ranked.length < list.capacity then (true, arrived.place item rank)
      else (true, arrived.dropLast.place item rank)

/-- Offers items with their scores, one after the other. -/
def addAll (list : RankedList κ ν) (offers : List (κ × ν)) : RankedList κ ν :=
  offers.foldl (fun list offer => (list.add offer.1 offer.2).2) list

/-- The items with their scores, best first. -/
def toList (list : RankedList κ ν) : List (κ × ν) :=
  list.ranked.map fun entry => (entry.2, entry.1.score)

/-- The items, best first. -/
def keys (list : RankedList κ ν) : List κ :=
  list.ranked.map Prod.snd

/-- The score of an item, if it is listed. -/
def score? (list : RankedList κ ν) (item : κ) : Option ν :=
  (list.index.find? item).map Rank.score

/-- The number of listed items. -/
def size (list : RankedList κ ν) : Nat :=
  list.ranked.length

/-- Whether no item is listed. -/
def isEmpty (list : RankedList κ ν) : Bool :=
  list.ranked.isEmpty

end RankedList

end NewsScoring
