import BuildDrift.Number.Binary64

/-!
# Shortest decimal text

A finite number is written with the fewest decimal digits that read back as the same bit pattern,
and of those with the digits nearest to its value. Where the point stands and when an exponent is
written is a matter of the format, collected in a `Decimal.Style`.

## Main definitions

* `Decimal.Interval`: the reals that round to a given number.
* `Decimal.shortest`: the shortest digits and the decimal exponent of the first one.
* `Decimal.Style`, `Decimal.render`: placing point and exponent.
-/

namespace BuildDrift.Decimal

/-- How many decimal digits `n` has; zero has none. -/
def digitCount (n : Nat) : Nat :=
  if n = 0 then 0 else (Nat.toDigits 10 n).length

/-- The decimal exponent of the first digit of the positive value `num / den`. -/
def leadingExponent (num den : Nat) : Int :=
  if den ≤ num then (digitCount (num / den) : Int) - 1
  else -(digitCount ((den - 1) / num) : Int)

/-- The values that round to a number, over a common denominator. The ends belong to the interval
exactly when the significand is even. -/
structure Interval where
  /-- The numerator of the number itself. -/
  value : Nat
  /-- The numerator of the lower end. -/
  low : Nat
  /-- The numerator of the upper end. -/
  high : Nat
  /-- The common denominator. -/
  den : Nat
  /-- Whether the ends round to the number too. -/
  closed : Bool

namespace Interval

/-- The interval of an unsigned pattern. Below a power of two the neighbours are half as far. -/
def ofMagnitude (magnitude : Nat) : Interval :=
  let m := Binary64.significandOf magnitude
  let e := Binary64.exponentOf magnitude
  let (unit, den) := Binary64.scaled 1 (e - 2)
  let below := if m = Nat.pow 2 52 ∧ -1074 < e then 1 else 2
  { value := 4 * m * unit
    low := (4 * m - below) * unit
    high := (4 * m + 2) * unit
    den := den
    closed := m % 2 = 0 }

/-- Whether `num / den` lies in the interval. -/
def contains (i : Interval) (num den : Nat) : Bool :=
  let x := num * i.den
  if i.closed then i.low * den ≤ x && x ≤ i.high * den
  else i.low * den < x && x < i.high * den

/-- The point of the decimal grid of step `10 ^ g` that lies in the interval and is nearest to the
value, as a multiple of the step. -/
def gridPoint? (i : Interval) (tieUp : Bool) (g : Int) : Option Nat :=
  let (up, down) := if 0 ≤ g then (Nat.pow 10 g.toNat, 1) else (1, Nat.pow 10 (-g).toNat)
  let num := i.value * down
  let den := i.den * up
  let q := num / den
  let r := num % den
  let below := i.contains (q * up) down
  let above := i.contains ((q + 1) * up) down
  if below && above then
    some (if 2 * r < den then q else if den < 2 * r then q + 1
      else if tieUp || q % 2 = 1 then q + 1 else q)
  else if below then some q
  else if above then some (q + 1)
  else none

end Interval

/-- A positive decimal number: its digits, and the decimal exponent of the first one. -/
structure Digits where
  /-- The digits, first to last. -/
  digits : List Char
  /-- The exponent of the first digit. -/
  exponent : Int

namespace Digits

/-- The number `n · 10 ^ g` without trailing zeros. -/
def ofScaled (n : Nat) (g : Int) : Digits :=
  let all := Nat.toDigits 10 n
  let kept := (all.reverse.dropWhile (· == '0')).reverse
  ⟨if kept.isEmpty then ['0'] else kept, g + all.length - 1⟩

end Digits

/-- The fewest digits that read back as the positive number of the given pattern, the nearest ones
of these; `tieUp` decides between two equally near ones. -/
def shortest (tieUp : Bool) (magnitude : Nat) : Digits :=
  let i := Interval.ofMagnitude magnitude
  let e := leadingExponent i.value i.den
  let found := (List.range 17).findSome? fun n : Nat =>
    (i.gridPoint? tieUp (e - n)).map fun q => Digits.ofScaled q (e - n)
  found.getD ⟨['0'], 0⟩

/-- Where a format places the point and when it writes an exponent. -/
structure Style where
  /-- The exponents of the first digit for which no exponent is written. -/
  plain : Int → Bool
  /-- Whether a whole number written without exponent ends in `.0`. -/
  pointZero : Bool
  /-- Which of two equally near shortest decimals is taken: the greater, or the even one. -/
  tieUp : Bool

/-- The digits with a point and without exponent. -/
def positional (pointZero : Bool) (d : Digits) : List Char :=
  if d.exponent < 0 then
    '0' :: '.' :: (List.replicate (-d.exponent - 1).toNat '0' ++ d.digits)
  else
    let whole := d.exponent.toNat + 1
    let fraction := d.digits.drop whole
    (d.digits.take whole).rightpad whole '0' ++
      (if fraction.isEmpty then (if pointZero then ['.', '0'] else []) else '.' :: fraction)

/-- The digits with an exponent, whose sign is always written. -/
def scientific (d : Digits) : List Char :=
  let mantissa := match d.digits with
    | [] => []
    | [c] => [c]
    | c :: rest => c :: '.' :: rest
  let sign := if d.exponent < 0 then '-' else '+'
  mantissa ++ 'e' :: sign :: Nat.toDigits 10 d.exponent.natAbs

/-- The text of a finite number in a style. -/
def render (style : Style) (x : Binary64) : String :=
  let d : Digits :=
    if x.unsignedBits = 0 then ⟨['0'], 0⟩ else shortest style.tieUp x.unsignedBits
  let body :=
    if style.plain d.exponent then positional style.pointZero d else scientific d
  String.ofList (if x.isNegative then '-' :: body else body)

end BuildDrift.Decimal
