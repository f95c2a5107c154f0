import BuildDrift.Unicode.CodePointSet

/-!
# Characters as bytes

A text is stored as bytes, one to four for each character. The characters of a set are described by
sequences of byte ranges: a sequence of ranges stands for the characters whose bytes lie in the
ranges, one by one.

## Main definitions

* `ByteSequence.bytes`: the bytes of a code point.
* `ByteSequence.ofRange`, `ofSet`: the sequences of a range and of a set, in order.
-/

namespace BuildDrift.Pattern

/-- Ranges for the bytes of a character, first and last byte. -/
abbrev ByteSequence := List (Nat × Nat)

namespace ByteSequence

/-- The bytes of a code point, in order. -/
def bytes (n : Nat) : List Nat :=
  if n < 0x80 then [n]
  else if n < 0x800 then [0xC0 + n / 64, 0x80 + n % 64]
  else if n < 0x10000 then [0xE0 + n / 4096, 0x80 + n / 64 % 64, 0x80 + n % 64]
  else [0xF0 + n / 262144, 0x80 + n / 4096 % 64, 0x80 + n / 64 % 64, 0x80 + n % 64]

/-- The bytes of some characters, in order. -/
def bytesOf (cs : List Char) : List Nat :=
  cs.flatMap fun c => bytes c.toNat

/-- Where a range has to be cut so that its parts are products of byte ranges: the last code point
of the first part, if there is such a cut. -/
def cut? (a b : Nat) : Option Nat :=
  if a ≤ 0x7F ∧ 0x7F < b then some 0x7F
  else if a ≤ 0x7FF ∧ 0x7FF < b then some 0x7FF
  else if a ≤ 0xFFFF ∧ 0xFFFF < b then some 0xFFFF
  else if b ≤ 0x7F then none
  else
    [64, 4096, 262144].findSome? fun m =>
      if a / m = b / m then none
      else if a % m ≠ 0 then some (a / m * m + m - 1)
      else if b % m ≠ m - 1 then some (b / m * m - 1)
      else none

/-- The sequences of the characters from `a` to `b`, in order. No range is cut more than `fuel`
times in a row. -/
def ofRange (fuel : Nat) (a b : Nat) : List ByteSequence :=
  match fuel with
  | 0 => []
  | fuel + 1 =>
    if b < a then []
    else
      match cut? a b with
      | some m => ofRange fuel a m ++ ofRange fuel (m + 1) b
      | none => [(bytes a).zip (bytes b)]

/-- The sequences of a set, the code points that stand for no character left out. -/
def ofSet (s : CodePointSet) : List ByteSequence :=
  (s.inter ⟨[(0, 0xD7FF), (0xE000, CodePointSet.last)]⟩).ranges.flatMap fun r => ofRange 64 r.1 r.2

end ByteSequence

end BuildDrift.Pattern
