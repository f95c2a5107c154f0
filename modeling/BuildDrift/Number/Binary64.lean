/-!
# Binary floating point numbers of 64 bits

A floating point immediate is its bit pattern: two immediates are the same instruction exactly
when their bits agree, so a not-a-number constant equals itself and the two zeros differ. The
arithmetic needed for reading and writing such numbers is exact arithmetic on natural numbers
followed by one rounding, `Binary64.magnitude`.

## Main definitions

* `Binary64`: a bit pattern, with its sign, exponent and fraction fields.
* `Binary64.ratio`: the exact absolute value of a finite number.
* `Binary64.magnitude`: the pattern nearest to a quotient, ties to the even pattern.
-/

namespace BuildDrift

/-- A floating point number of 64 bits, given by its pattern. -/
structure Binary64 where
  /-- The pattern: one sign bit, eleven exponent bits, fifty-two fraction bits. -/
  bits : UInt64
  deriving DecidableEq, Repr, Inhabited

namespace Binary64

/-- The patterns from this one on (sign apart) stand for no number. -/
def infiniteMagnitude : Nat := 2047 * Nat.pow 2 52

/-- Whether the sign bit is set. -/
def isNegative (x : Binary64) : Bool :=
  Nat.pow 2 63 ≤ x.bits.toNat

/-- The pattern without its sign bit. -/
def unsignedBits (x : Binary64) : Nat :=
  x.bits.toNat % Nat.pow 2 63

/-- Whether the pattern stands for a number. -/
def isFinite (x : Binary64) : Bool :=
  x.unsignedBits < infiniteMagnitude

/-- Whether the pattern is an infinity. -/
def isInfinite (x : Binary64) : Bool :=
  x.unsignedBits == infiniteMagnitude

/-- Whether the pattern is not a number. -/
def isNaN (x : Binary64) : Bool :=
  infiniteMagnitude < x.unsignedBits

/-- The number with the given sign and unsigned pattern. -/
def ofMagnitude (negative : Bool) (magnitude : Nat) : Binary64 :=
  ⟨UInt64.ofNat (if negative then Nat.pow 2 63 + magnitude else magnitude)⟩

/-- The integer significand of an unsigned pattern. -/
def significandOf (magnitude : Nat) : Nat :=
  if magnitude < Nat.pow 2 52 then magnitude else magnitude % Nat.pow 2 52 + Nat.pow 2 52

/-- The binary exponent that goes with `significandOf`. -/
def exponentOf (magnitude : Nat) : Int :=
  (max (magnitude / Nat.pow 2 52) 1 : Nat) - 1075

/-- `m · 2 ^ e` as a numerator and a positive denominator. -/
def scaled (m : Nat) (e : Int) : Nat × Nat :=
  if 0 ≤ e then (m * Nat.pow 2 e.toNat, 1) else (m, Nat.pow 2 (-e).toNat)

/-- The exact value of an unsigned pattern below `infiniteMagnitude`. -/
def ratioOf (magnitude : Nat) : Nat × Nat :=
  scaled (significandOf magnitude) (exponentOf magnitude)

/-- The quotient rounded to the nearest natural number, a half to the even one. -/
def roundHalfEven (num den : Nat) : Nat :=
  let q := num / den
  let r := num % den
  if 2 * r < den then q
  else if den < 2 * r then q + 1
  else if q % 2 = 0 then q else q + 1

/-- The binary exponent of the last significand bit for a value `num / den`: fifty-three bits are
kept, fewer below the normal range. -/
def lastBitExponent (num den : Nat) : Int :=
  let least : Int := -1074
  let guess : Int := (num.log2 : Int) - den.log2 - 52
  let (n, d) :=
    if 0 ≤ guess then (num, den * Nat.pow 2 guess.toNat)
    else (num * Nat.pow 2 (-guess).toNat, den)
  max least (if n / d < Nat.pow 2 52 then guess - 1 else guess)

/-- The unsigned pattern nearest to `num / den`, ties to the even pattern; a value beyond the
greatest number gives the infinity. -/
def magnitude (num den : Nat) : Nat :=
  if num = 0 then 0
  else
    let e := lastBitExponent num den
    let m :=
      if 0 ≤ e then roundHalfEven num (den * Nat.pow 2 e.toNat)
      else roundHalfEven (num * Nat.pow 2 (-e).toNat) den
    min ((e + 1074).toNat * Nat.pow 2 52 + m) infiniteMagnitude

/-- The pattern nearest to an integer. -/
def ofInt (n : Int) : Binary64 :=
  ofMagnitude (n < 0) (magnitude n.natAbs 1)

end Binary64

end BuildDrift
