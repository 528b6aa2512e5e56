import Criteria.Unicode.CodeSet

/-!
# Code points as bytes

The bytes that encode a code point in UTF-8, and the encodings of a whole range of code points as sequences of
byte ranges: a text of bytes encodes a member of the range when it follows one of the sequences.
-/

namespace Criteria.Unicode

/-- The bytes that encode a code point. -/
def utf8Bytes (code : Nat) : List Nat :=
  let tail (shift : Nat) : Nat := 0x80 + code / shift % 64
  if code < 0x80 then [code]
  else if code < 0x800 then [0xC0 + code / 64, tail 1]
  else if code < 0x10000 then [0xE0 + code / 4096, tail 64, tail 1]
  else [0xF0 + code / 262144, tail 4096, tail 64, tail 1]

/-- The number of bytes that encode a code point. -/
def utf8Length (code : Nat) : Nat :=
  (utf8Bytes code).length

/-- A range of code points without the surrogates, which have no encoding. -/
def cutSurrogates (range : Nat × Nat) : List (Nat × Nat) :=
  if range.1 < 0xE000 ∧ 0xD7FF < range.2 then [(range.1, 0xD7FF), (0xE000, range.2)] else [range]

/-- Cuts a range behind the given code point. -/
def cutBehind (last : Nat) (range : Nat × Nat) : List (Nat × Nat) :=
  if range.1 ≤ last ∧ last < range.2 then [(range.1, last), (last + 1, range.2)] else [range]

/-- Cuts the last block of the given size off a range of several blocks, unless the range ends with it. -/
def cutTail (size : Nat) (range : Nat × Nat) : List (Nat × Nat) :=
  if range.1 / size ≠ range.2 / size ∧ (range.2 + 1) % size ≠ 0 then
    let start := range.2 / size * size
    [(range.1, start - 1), (start, range.2)]
  else [range]

/-- Cuts a range beyond ASCII so that its parts either lie within one block of the given size or consist of whole
blocks. -/
def cutBlocks (size : Nat) (range : Nat × Nat) : List (Nat × Nat) :=
  if range.2 ≤ 0x7F then [range]
  else if range.1 / size ≠ range.2 / size ∧ range.1 % size ≠ 0 then
    let next := (range.1 / size + 1) * size
    (range.1, next - 1) :: cutTail size (next, range.2)
  else cutTail size range

/-- The encodings of a range of code points, in order. -/
def byteSequences (range : Nat × Nat) : List (List (Nat × Nat)) :=
  let parts := (cutSurrogates range).filter fun part => part.1 ≤ part.2
  let parts := parts.flatMap (cutBehind 0x7F)
  let parts := parts.flatMap (cutBehind 0x7FF)
  let parts := parts.flatMap (cutBehind 0xFFFF)
  let parts := parts.flatMap (cutBlocks 64)
  let parts := parts.flatMap (cutBlocks 4096)
  let parts := parts.flatMap (cutBlocks 262144)
  parts.map fun part => (utf8Bytes part.1).zip (utf8Bytes part.2)

/-- The encodings of the members of a set, in order. -/
def CodeSet.byteSequences (s : CodeSet) : List (List (Nat × Nat)) :=
  s.ranges.flatMap Unicode.byteSequences

end Criteria.Unicode
