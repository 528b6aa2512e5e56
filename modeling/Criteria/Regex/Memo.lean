import Std.Data.HashMap
import Criteria.Regex.Tally

/-!
# States for sets of characters

A set of characters beyond ASCII is read byte by byte.  States that lead to the same places are shared as far as
they are remembered: a memory has a fixed number of places, a state's place follows from what it does, and a later
state takes the place of an earlier one.
-/

namespace Criteria.Regex

/-- The states that are remembered, by their places, each with what it does. -/
abbrev Memory (κ : Type) := Std.HashMap Nat (κ × Nat)

/-- Mixes one number into a hash. -/
def mix (hash : UInt64) (value : Nat) : UInt64 :=
  (hash ^^^ value.toUInt64) * 1099511628211

/-- The place of a state in a memory, from the numbers that say what it does. -/
def placeOf (places : Nat) (values : List Nat) : Nat :=
  (values.foldl mix 14695981039346656037).toNat % places

/-- The state at a place if it does the given thing. -/
def found? {κ : Type} [BEq κ] (memory : Memory κ) (place : Nat) (key : κ) : Option Nat :=
  match memory[place]? with
  | some (other, state) => if other == key then some state else none
  | none => none

/-! ## From the first byte to the last -/

/-- A transition: the first and last bytes of a range and the state they lead to. -/
structure Edge where
  low : Nat
  high : Nat
  next : Nat
  deriving BEq

/-- The numbers that say what a transition does. -/
def Edge.values (edge : Edge) : List Nat :=
  [edge.low, edge.high, edge.next]

/-- A state under construction: its finished transitions, the latest first, and the bytes of the one whose end is
still open. -/
structure OpenState where
  edges : List Edge
  bytes : Option (Nat × Nat)

/-- The state with its open transition leading to the given one. -/
def OpenState.close (state : OpenState) (next : Nat) : OpenState :=
  match state.bytes with
  | some (low, high) => ⟨⟨low, high, next⟩ :: state.edges, none⟩
  | none => state

/-- What is kept while states are shared. -/
structure Sharing where
  memory : Memory (List Edge)
  tally : Tally

/-- The number of states that are remembered on the way from the first byte to the last. -/
def forwardPlaces : Nat := 10000

/-- Adds a finished state unless one like it is remembered. -/
def Sharing.finish (s : Sharing) (state : OpenState) : Option (Nat × Sharing) :=
  let edges := state.edges.reverse
  let place := placeOf forwardPlaces (edges.flatMap Edge.values)
  match found? s.memory place edges with
  | some known => some (known, s)
  | none => do
      let (added, tally) ← s.tally.add? (Tally.transitionSize * edges.length)
      return (added, ⟨s.memory.insert place (edges, added), tally⟩)

/-- Finishes states under construction from the last to the first, of which the last leads to the target, and gives
the first. -/
def Sharing.finishAll (s : Sharing) (target : Nat) : List OpenState → Option (Nat × Sharing)
  | [] => some (target, s)
  | state :: states => do
      let (next, s) ← s.finishAll target states
      s.finish (state.close next)

/-- The states that read the rest of a sequence. -/
def openStates (sequence : List (Nat × Nat)) : List OpenState :=
  sequence.map fun bytes => ⟨[], some bytes⟩

/-- Adds a sequence to the states under construction, which are the ones that the sequence before it passes; the
states behind what both have in common are finished. -/
def Sharing.addSequence (s : Sharing) (target : Nat) :
    List OpenState → List (Nat × Nat) → Option (List OpenState × Sharing)
  | [], sequence => some (openStates sequence, s)
  | states, [] => some (states, s)
  | state :: states, bytes :: sequence =>
      if state.bytes = some bytes ∧ !states.isEmpty then do
        let (states, s) ← s.addSequence target states sequence
        return (state :: states, s)
      else do
        let (next, s) ← s.finishAll target states
        return (⟨(state.close next).edges, some bytes⟩ :: openStates sequence, s)

/-- Adds the sequences of a set in order. -/
def Sharing.addSequences (s : Sharing) (target : Nat) :
    List OpenState → List (List (Nat × Nat)) → Option (List OpenState × Sharing)
  | states, [] => some (states, s)
  | states, sequence :: sequences => do
      let (states, s) ← s.addSequence target states sequence
      s.addSequences target states sequences

/-- The states that read one character of a set, given by the encodings of its members in order. -/
def Plan.forwardSet (sequences : List (List (Nat × Nat))) : Plan := fun t => do
  let (target, t) ← t.add? 0
  let (states, s) ← Sharing.addSequences ⟨∅, t⟩ target [⟨[], none⟩] sequences
  let (first, s) ← s.finishAll target states
  return (⟨first, target, false⟩, s.tally)

/-! ## From the last byte to the first -/

/-- The number of states that are remembered on the way from the last byte to the first. -/
def backwardPlaces : Nat := 1000

/-- Adds the states that lead through a sequence to the given state, unless they are remembered, and gives the
one that the sequence ends in. -/
def addBackward : List (Nat × Nat) → Nat → Memory Edge → Tally → Option (Nat × Memory Edge × Tally)
  | [], state, memory, t => some (state, memory, t)
  | (low, high) :: sequence, state, memory, t =>
      let edge : Edge := ⟨low, high, state⟩
      let place := placeOf backwardPlaces [state, low, high]
      match found? memory place edge with
      | some known => addBackward sequence known memory t
      | none => do
          let (added, t) ← t.add? 0
          addBackward sequence added (memory.insert place (edge, added)) t

/-- Adds the states for several sequences, each of them an alternative of one branching state. -/
def addAllBackward (target : Nat) : List (List (Nat × Nat)) → Memory Edge → Tally → Option Tally
  | [], _, t => some t
  | sequence :: sequences, memory, t => do
      let (_, memory, t) ← addBackward sequence target memory t
      addAllBackward target sequences memory (← t.branch?)

/-- The states that read one character of a set from its last byte to its first. -/
def Plan.backwardSet (sequences : List (List (Nat × Nat))) : Plan := fun t => do
  let (choice, t) ← t.add? 0
  let (target, t) ← t.add? 0
  return (⟨choice, target, false⟩, ← addAllBackward target sequences ∅ t)

end Criteria.Regex
