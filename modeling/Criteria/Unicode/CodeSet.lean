/-!
# Sets of code points

A set of code points is given by the points at which membership changes.  The operations on sets walk over these
points in order, so their cost does not depend on how many characters a set has.  The tables of the library write
a set as a text of hexadecimal ranges.
-/

namespace Criteria.Unicode

/-- A set of code points: the points at which membership changes, in ascending order. -/
structure CodeSet where
  bounds : List Nat
  deriving DecidableEq

/-- The first number that is no code point. -/
def codeLimit : Nat := 0x110000

namespace CodeSet

/-- The set without members. -/
def empty : CodeSet := ⟨[]⟩

/-- The set of all code points. -/
def all : CodeSet := ⟨[0, codeLimit]⟩

/-- Decides whether a set has no members. -/
def isEmpty (s : CodeSet) : Bool :=
  s.bounds.isEmpty

/-- A code is in a set when membership changes an odd number of times up to it. -/
def contains (s : CodeSet) (code : Nat) : Bool :=
  s.bounds.countP (· ≤ code) % 2 == 1

/-- Pairs the points at which membership begins and ends. -/
def pairUp : List Nat → List (Nat × Nat)
  | low :: next :: rest => (low, next - 1) :: pairUp rest
  | [low] => [(low, codeLimit - 1)]
  | [] => []

/-- The first and last members of each run of a set, in order. -/
def ranges (s : CodeSet) : List (Nat × Nat) :=
  pairUp s.bounds

/-- Decides whether all members are ASCII characters. -/
def isAscii (s : CodeSet) : Bool :=
  s.bounds.all (· ≤ 0x80)

/-- The only member of a set that has one member. -/
def only? (s : CodeSet) : Option Nat :=
  match s.ranges with
  | [(low, high)] => if low = high then some low else none
  | _ => none

/-- Puts a point before others if membership changes there. -/
def change (before after : Bool) (point : Nat) (rest : List Nat) : List Nat :=
  if before = after then rest else point :: rest

/-- Combines two lists of points, given whether the codes below them are in the one and in the other set. -/
def combineFrom (keep : Bool → Bool → Bool) (inFirst inSecond : Bool) : List Nat → List Nat → List Nat
  | [], [] => []
  | x :: xs, [] =>
      change (keep inFirst inSecond) (keep (!inFirst) inSecond) x
        (combineFrom keep (!inFirst) inSecond xs [])
  | [], y :: ys =>
      change (keep inFirst inSecond) (keep inFirst (!inSecond)) y
        (combineFrom keep inFirst (!inSecond) [] ys)
  | x :: xs, y :: ys =>
      if x < y then
        change (keep inFirst inSecond) (keep (!inFirst) inSecond) x
          (combineFrom keep (!inFirst) inSecond xs (y :: ys))
      else if y < x then
        change (keep inFirst inSecond) (keep inFirst (!inSecond)) y
          (combineFrom keep inFirst (!inSecond) (x :: xs) ys)
      else
        change (keep inFirst inSecond) (keep (!inFirst) (!inSecond)) x
          (combineFrom keep (!inFirst) (!inSecond) xs ys)
termination_by xs ys => xs.length + ys.length

/-- The codes whose membership in two sets satisfies a condition, which must not hold of the codes in neither. -/
def combine (keep : Bool → Bool → Bool) (s t : CodeSet) : CodeSet :=
  ⟨combineFrom keep false false s.bounds t.bounds⟩

/-- The codes in one or both of two sets. -/
def union (s t : CodeSet) : CodeSet :=
  combine or s t

/-- The codes in both of two sets. -/
def inter (s t : CodeSet) : CodeSet :=
  combine and s t

/-- The codes in the first but not in the second set. -/
def diff (s t : CodeSet) : CodeSet :=
  combine (fun inFirst inSecond => inFirst && !inSecond) s t

/-- The codes in exactly one of two sets. -/
def symmDiff (s t : CodeSet) : CodeSet :=
  combine xor s t

/-- The codes up to a limit that are not in a set. -/
def complBelow (limit : Nat) (s : CodeSet) : CodeSet :=
  diff ⟨[0, limit]⟩ s

/-- The codes that are not in a set. -/
def compl (s : CodeSet) : CodeSet :=
  s.complBelow codeLimit

/-- The points of ranges that are sorted by their first members, of which the first is still open. -/
def joinFrom (low high : Nat) : List (Nat × Nat) → List Nat
  | [] => [low, high + 1]
  | (first, last) :: rest =>
      if first ≤ high + 1 then joinFrom low (max high last) rest
      else low :: (high + 1) :: joinFrom first last rest

/-- The set of the codes in some ranges, given in any order by their first and last members. -/
def ofRanges (ranges : List (Nat × Nat)) : CodeSet :=
  match ranges.mergeSort (fun r t => r.1 ≤ t.1) with
  | [] => empty
  | (first, last) :: rest => ⟨joinFrom first last rest⟩

/-- The set of the given codes. -/
def ofCodes (codes : List Nat) : CodeSet :=
  ofRanges (codes.map fun code => (code, code))

/-- The set of one code. -/
def single (code : Nat) : CodeSet :=
  ⟨[code, code + 1]⟩

/-- The codes in at least one of several sets. -/
def unions (sets : List CodeSet) : CodeSet :=
  ofRanges (sets.flatMap ranges)

end CodeSet

/-! ## Ranges in a text -/

/-- What stands between two codes of an entry. -/
inductive Joint where
  /-- All codes from the first to the last belong to the entry. -/
  | every
  /-- Every other code from the first to the last belongs to the entry. -/
  | other

/-- What has been read of a text of ranges: the ranges so far, the beginning of the current entry, and the value
of the current digits. -/
structure RangeReading where
  done : List (Nat × Nat)
  first : Option (Nat × Joint)
  value : Nat

/-- Completes the current entry. -/
def RangeReading.close (r : RangeReading) : List (Nat × Nat) :=
  match r.first with
  | none => (r.value, r.value) :: r.done
  | some (low, .every) => (low, r.value) :: r.done
  | some (low, .other) =>
      (List.range ((r.value - low) / 2 + 1)).foldl (fun done i => (low + 2 * i, low + 2 * i) :: done) r.done

/-- The value of a hexadecimal digit in upper case. -/
def upperHexValue (c : Char) : Nat :=
  if c.isDigit then c.toNat - '0'.toNat else c.toNat - 'A'.toNat + 10

/-- Reads one character of a text of ranges. -/
def RangeReading.next (r : RangeReading) (c : Char) : RangeReading :=
  match c with
  | ' ' => ⟨r.close, none, 0⟩
  | '-' => ⟨r.done, some (r.value, .every), 0⟩
  | '/' => ⟨r.done, some (r.value, .other), 0⟩
  | c => { r with value := 16 * r.value + upperHexValue c }

/-- Reads ranges of codes in hexadecimal, with a blank between entries: one code, two codes with `-` for all
between them, or two codes with `/` for every other one. -/
def readRanges (line : String) : List (Nat × Nat) :=
  (line.toList.foldl RangeReading.next ⟨[], none, 0⟩).close.reverse

/-- The set that lines of ranges stand for. -/
def CodeSet.ofText (lines : List String) : CodeSet :=
  .ofRanges (lines.flatMap readRanges)

end Criteria.Unicode
