import BuildDrift.Text.Hex

/-!
# Sets of code points

Character classes are sets of code points, kept as inclusive ranges. The tables of the character
database are written as lines of ranges, such as `41-5A C0`, with `100-12E/2` for every second
code point of a range.

## Main definitions

* `CodePointSet`: a set given by its ranges, with `contains`.
* `CodePointSet.union`, `complement`, `inter`, `diff`, `symmDiff`: the set operations, on ranges.
* `CodePointSet.negate`: what a negated class holds.
* `CodePointSet.ofLines`: the set that the lines of a table describe.
-/

namespace BuildDrift

/-- A set of code points, as inclusive ranges. -/
structure CodePointSet where
  /-- The ranges, first and last code point. -/
  ranges : List (Nat × Nat)
  deriving DecidableEq, Repr, Inhabited

namespace CodePointSet

/-- The greatest code point. -/
def last : Nat := 0x10FFFF

/-- Whether a code point is in the set. -/
def containsCode (s : CodePointSet) (n : Nat) : Bool :=
  s.ranges.any fun r => r.1 ≤ n && n ≤ r.2

/-- Whether a character is in the set. -/
def contains (s : CodePointSet) (c : Char) : Bool :=
  s.containsCode c.toNat

/-- The empty set. -/
def empty : CodePointSet := ⟨[]⟩

/-- Every code point. -/
def all : CodePointSet := ⟨[(0, last)]⟩

/-- One range. -/
def range (a b : Nat) : CodePointSet := ⟨[(a, b)]⟩

/-- One character. -/
def single (c : Char) : CodePointSet := range c.toNat c.toNat

/-- Joins ranges that overlap or touch; the list is ordered by first code point. -/
def joinRanges : List (Nat × Nat) → List (Nat × Nat)
  | [] => []
  | r :: rest => (rest.foldl (fun (acc : (Nat × Nat) × List (Nat × Nat)) next =>
      let (held, done) := acc
      if next.1 ≤ held.2 + 1 then ((held.1, max held.2 next.2), done)
      else (next, held :: done)) (r, [])) |> fun (held, done) => (held :: done).reverse

/-- The same set with ordered ranges that neither overlap nor touch. -/
def normalize (s : CodePointSet) : CodePointSet :=
  ⟨joinRanges (s.ranges.mergeSort fun a b => a.1 ≤ b.1)⟩

/-- The code points in either set. -/
def union (s t : CodePointSet) : CodePointSet :=
  normalize ⟨s.ranges ++ t.ranges⟩

/-! ### Gaps

The code points from `D800` to `DFFF` stand for no character. The gaps between ranges are counted
in characters, so that none begins or ends among those. -/

/-- The character behind a character. -/
def next (n : Nat) : Nat :=
  if n = 0xD7FF then 0xE000 else n + 1

/-- The character in front of a character. -/
def previous (n : Nat) : Nat :=
  if n = 0xE000 then 0xD7FF else n - 1

/-- The gaps between ordered ranges, from `first` on. -/
def gapsFrom (first : Nat) : List (Nat × Nat) → List (Nat × Nat)
  | [] => if first ≤ last then [(first, last)] else []
  | r :: rest =>
    if first < r.1 then (first, previous r.1) :: gapsFrom (next r.2) rest
    else gapsFrom (next r.2) rest

/-- The characters that are not in the set. -/
def complement (s : CodePointSet) : CodePointSet :=
  ⟨gapsFrom 0 s.normalize.ranges⟩

/-- The gaps behind `stop` that a negated class is made of. Where no character lies between two
ranges, the gap holds the last character of the first and the first character of the second. -/
def negatedFrom (stop : Nat) : List (Nat × Nat) → List (Nat × Nat)
  | [] => if stop < last then [(next stop, last)] else []
  | r :: rest =>
    (min (next stop) (previous r.1), max (next stop) (previous r.1)) :: negatedFrom r.2 rest

/-- The characters of a negated class. They are those that are not in the class, but for the
characters at both ends of a gap without characters. -/
def negate (s : CodePointSet) : CodePointSet :=
  match s.normalize.ranges with
  | [] => all
  | r :: rest => ⟨(if 0 < r.1 then [(0, previous r.1)] else []) ++ negatedFrom r.2 rest⟩

/-! ### Operations between sets -/

/-- The part of some ranges that lies in the range from `a` to `b`. -/
def cut (ranges : List (Nat × Nat)) (a b : Nat) : List (Nat × Nat) :=
  ranges.filterMap fun r =>
    let low := max r.1 a
    let high := min r.2 b
    if low ≤ high then some (low, high) else none

/-- The part of some ranges that lies outside the range from `a` to `b`. -/
def cutOut (ranges : List (Nat × Nat)) (a b : Nat) : List (Nat × Nat) :=
  ranges.flatMap fun r =>
    if r.2 < a ∨ b < r.1 then [r]
    else
      (if r.1 < a then [(r.1, previous a)] else []) ++ (if b < r.2 then [(next b, r.2)] else [])

/-- The characters in both sets. -/
def inter (s t : CodePointSet) : CodePointSet :=
  ⟨s.ranges.flatMap fun r => cut t.ranges r.1 r.2⟩

/-- The characters in the first set only. -/
def diff (s t : CodePointSet) : CodePointSet :=
  ⟨t.ranges.foldl (fun ranges r => cutOut ranges r.1 r.2) s.ranges⟩

/-- The characters in exactly one of the sets. -/
def symmDiff (s t : CodePointSet) : CodePointSet :=
  (s.union t).diff (s.inter t)

/-- The union of a list of sets. -/
def unions (sets : List CodePointSet) : CodePointSet :=
  normalize ⟨sets.flatMap CodePointSet.ranges⟩

/-- Whether every member is below 128. -/
def isAscii (s : CodePointSet) : Bool :=
  s.ranges.all fun r => r.2 < 128

/-- Every second code point from `a` to `b`. -/
def everySecond (a b : Nat) : List (Nat × Nat) :=
  (List.range ((b - a) / 2 + 1)).map fun i => (a + 2 * i, a + 2 * i)

/-- The ranges that one word of a table stands for. -/
def rangesOfWord (word : List Char) : List (Nat × Nat) :=
  let number (digits : List Char) : Nat := (Hex.read? digits).getD 0
  match word.splitOn '/' with
  | [bounds, _] =>
    match bounds.splitOn '-' with
    | [a, b] => everySecond (number a) (number b)
    | _ => []
  | _ =>
    match word.splitOn '-' with
    | [a, b] => [(number a, number b)]
    | [a] => if a.isEmpty then [] else [(number a, number a)]
    | _ => []

/-- The set that the lines of a table describe. -/
def ofLines (lines : List String) : CodePointSet :=
  ⟨lines.flatMap fun line => (line.toList.splitOn ' ').flatMap rangesOfWord⟩

end CodePointSet

end BuildDrift
