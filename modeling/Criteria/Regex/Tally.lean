/-!
# The space of a machine

A machine that searches for an expression is built state by state.  A tally keeps how many states it has and how
much space they take beside their fixed part, and refuses to go beyond the limit.  A plan says how a piece of a
machine is added to a tally.
-/

namespace Criteria.Regex

/-- How much of a machine has been built: the number of its states, and the space that they take for what differs
from state to state. -/
structure Tally where
  states : Nat
  varying : Nat

namespace Tally

/-- The tally of a machine without states. -/
def start : Tally := ⟨0, 0⟩

/-- The bytes that every state takes. -/
def stateSize : Nat := 32

/-- The bytes of one alternative of a branching state. -/
def branchSize : Nat := 4

/-- The bytes of one transition of a state that reads one of several ranges of bytes. -/
def transitionSize : Nat := 8

/-- The bytes that a machine may take. -/
def limit : Nat := 10 * Nat.pow 2 20

/-- The bytes that a machine takes. -/
def size (t : Tally) : Nat :=
  t.states * stateSize + t.varying

/-- The tally itself if it is within the limit. -/
def check? (t : Tally) : Option Tally :=
  if t.size ≤ limit then some t else none

/-- Adds some states of fixed size. -/
def addStates? (t : Tally) (count : Nat) : Option Tally :=
  { t with states := t.states + count }.check?

/-- Adds a state that takes some space of its own, and gives its number. -/
def add? (t : Tally) (varying : Nat) : Option (Nat × Tally) := do
  return (t.states, ← check? ⟨t.states + 1, t.varying + varying⟩)

/-- Adds one alternative to a branching state. -/
def branch? (t : Tally) : Option Tally :=
  { t with varying := t.varying + branchSize }.check?

end Tally

/-- A piece of a machine: its first and last states, and whether the last one is branching, so that what follows
becomes one more alternative of it. -/
structure Part where
  first : Nat
  last : Nat
  branching : Bool

/-- Connects the end of a piece to what follows. -/
def Part.link? (part : Part) (t : Tally) : Option Tally :=
  if part.branching then t.branch? else some t

/-- A way to add a piece of a machine. -/
abbrev Plan := Tally → Option (Part × Tally)

namespace Plan

/-- One state of fixed size. -/
def single : Plan := fun t => do
  let (state, t) ← t.add? 0
  return (⟨state, state, false⟩, t)

/-- States that read one byte each. -/
def bytes (count : Nat) : Plan := fun t => do
  if count = 0 then single t
  else return (⟨t.states, t.states + count - 1, false⟩, ← t.addStates? count)

/-- A state that reads one of several ranges of bytes. -/
def oneByte (ranges : Nat) : Plan := fun t => do
  let (last, t) ← t.add? 0
  let (first, t) ← t.add? (Tally.transitionSize * ranges)
  return (⟨first, last, false⟩, t)

/-- Adds further pieces behind a piece. -/
def follow : List Plan → Part → Plan
  | [], part, t => some (part, t)
  | plan :: plans, part, t => do
      let (next, t) ← plan t
      let t ← part.link? t
      follow plans ⟨part.first, next.last, next.branching⟩ t

/-- One piece after another. -/
def inOrder (plans : List Plan) : Plan :=
  match plans with
  | [] => single
  | plan :: plans => fun t => do
      let (part, t) ← plan t
      follow plans part t

/-- Adds copies of a piece behind a piece. -/
def followTimes (plan : Plan) : Nat → Part → Plan
  | 0, part, t => some (part, t)
  | count + 1, part, t => do
      let (next, t) ← plan t
      let t ← part.link? t
      followTimes plan count ⟨part.first, next.last, next.branching⟩ t

/-- Some copies of a piece, one after another. -/
def exactly (count : Nat) (plan : Plan) : Plan :=
  match count with
  | 0 => single
  | count + 1 => fun t => do
      let (part, t) ← plan t
      followTimes plan count part t

/-- Adds further alternatives to a branching state. -/
def branches : List Plan → Tally → Option Tally
  | [], t => some t
  | plan :: plans, t => do
      let (part, t) ← plan t
      let t ← t.branch?
      let t ← part.link? t
      branches plans t

/-- One of several pieces. -/
def oneOf (plans : List Plan) : Plan :=
  match plans with
  | [] => single
  | [plan] => plan
  | plan :: second :: plans => fun t => do
      let (one, t) ← plan t
      let (two, t) ← second t
      let (choice, t) ← t.add? 0
      let (last, t) ← t.add? 0
      let t ← one.link? (← t.branch?)
      let t ← two.link? (← t.branch?)
      return (⟨choice, last, false⟩, ← branches plans t)

/-- A piece or nothing. -/
def optional (plan : Plan) : Plan := fun t => do
  let (choice, t) ← t.add? 0
  let (part, t) ← plan t
  let (last, t) ← t.add? 0
  let t ← (← t.branch?).branch?
  return (⟨choice, last, false⟩, ← part.link? t)

/-- Any number of copies of a piece that reads at least one byte. -/
def star (plan : Plan) : Plan := fun t => do
  let (choice, t) ← t.add? 0
  let (part, t) ← plan t
  let t ← part.link? (← t.branch?)
  return (⟨choice, choice, true⟩, t)

/-- One copy of a piece or more. -/
def plus (plan : Plan) : Plan := fun t => do
  let (part, t) ← plan t
  let (choice, t) ← t.add? 0
  let t ← part.link? t
  return (⟨part.first, choice, true⟩, ← t.branch?)

/-- Any number of copies of a piece that may read nothing. -/
def starOfVoid (plan : Plan) : Plan := fun t => do
  let (part, t) ← plan t
  let (_, t) ← t.add? 0
  let t ← (← part.link? t).branch?
  let (choice, t) ← t.add? 0
  let (last, t) ← t.add? 0
  let t ← (← (← t.branch?).branch?).branch?
  return (⟨choice, last, false⟩, t)

/-- At least the given number of copies of a piece, which reads at least one byte if it is said to consume. -/
def atLeast (count : Nat) (consumes : Bool) (plan : Plan) : Plan :=
  match count with
  | 0 => if consumes then star plan else starOfVoid plan
  | 1 => plus plan
  | count => fun t => do
      let (before, t) ← exactly (count - 1) plan t
      let (part, t) ← plan t
      let (choice, t) ← t.add? 0
      let t ← part.link? (← before.link? t)
      return (⟨before.first, choice, true⟩, ← t.branch?)

/-- Adds copies of a piece each of which may be left out with the ones behind it. -/
def nested (plan : Plan) : Nat → Part → Tally → Option (Part × Tally)
  | 0, part, t => some (part, t)
  | count + 1, part, t => do
      let (choice, t) ← t.add? 0
      let (next, t) ← plan t
      let t ← part.link? t
      let t ← (← t.branch?).branch?
      nested plan count ⟨choice, next.last, next.branching⟩ t

/-- From the one to the other number of copies of a piece. -/
def between (least most : Nat) (plan : Plan) : Plan := fun t => do
  let (before, t) ← exactly least plan t
  let (last, t) ← t.add? 0
  let (part, t) ← nested plan (most - least) before t
  return (⟨before.first, last, false⟩, ← part.link? t)

/-- A piece between two states that remember where it begins and ends. -/
def capture (plan : Plan) : Plan := fun t => do
  let (first, t) ← t.add? 0
  let (part, t) ← plan t
  let (last, t) ← t.add? 0
  return (⟨first, last, false⟩, ← part.link? t)

end Plan

/-! ## Words -/

/-- Adds a word, without its first byte, to the words that begin with each byte.  The bytes are in ascending
order and the words of each in reverse order. -/
def insertWord (byte : Nat) (word : List Nat) : List (Nat × List (List Nat)) → List (Nat × List (List Nat))
  | [] => [(byte, [word])]
  | (b, words) :: rest =>
      if byte < b then (byte, [word]) :: (b, words) :: rest
      else if byte = b then (b, word :: words) :: rest
      else (b, words) :: insertWord byte word rest

/-- Groups words by their first bytes; a word that ends divides the ones before it from the ones behind it.  Words
that end before any other has begun count once. -/
def divideWords : List (List (Nat × List (List Nat))) → List (List Nat) → List (List (Nat × List (List Nat)))
  | groups, [] => groups
  | [], words => divideWords [[]] words
  | current :: before, [] :: words =>
      if current.isEmpty && !before.isEmpty && before.all List.isEmpty then divideWords (current :: before) words
      else divideWords ([] :: current :: before) words
  | current :: before, (byte :: word) :: words =>
      divideWords (insertWord byte word current :: before) words
termination_by groups words => 2 * words.length + (if groups.isEmpty then 1 else 0)

mutual

/-- Adds the branching state from which the rest of some words is read; the fuel is more than the length of the
longest one. -/
def addWords : Nat → List (List Nat) → Tally → Option (Nat × Tally)
  | 0, _, _ => none
  | fuel + 1, words, t =>
      match words with
      | [word] => do
          let t ← t.addStates? (2 * word.length)
          let t ← Tally.check? { t with varying := t.varying + Tally.branchSize * word.length }
          return (t.states - 1, t)
      | words => do
          let groups := (divideWords [[]] words).reverse
          let t ← groups.foldlM (addGroup fuel) t
          let branches := (groups.filter fun group => !group.isEmpty).length + groups.length - 1
          t.add? (Tally.branchSize * branches)

/-- Adds the states behind each byte of a group, and the state that reads one of the bytes. -/
def addGroup : Nat → Tally → List (Nat × List (List Nat)) → Option Tally
  | 0, _, _ => none
  | fuel + 1, t, group => do
      let t ← group.foldlM (fun t entry =>
        if entry.2.all List.isEmpty then some t
        else (addWords fuel entry.2.reverse t).map Prod.snd) t
      match group with
      | [] => return t
      | [_] => t.addStates? 1
      | group => return (← t.add? (Tally.transitionSize * group.length)).2

end

/-- One of several words of bytes, of which the ones that begin alike share states. -/
def Plan.oneWord (words : List (List Nat)) : Plan := fun t => do
  let (last, t) ← t.add? 0
  let longest := (words.map List.length).foldl max 0
  let (first, t) ← addWords (2 * longest + 2) words t
  return (⟨first, last, false⟩, t)

end Criteria.Regex
