import BuildDrift.Json.Fault
import BuildDrift.Number.Decimal

/-!
# Numerals

A numeral is kept as the digits that were written. Its value is an integer as long as it has
neither fraction nor exponent and fits in 64 bits; otherwise it is a floating point number,
computed from the leading digits that fit in 64 bits and a power of ten, each rounded once.

## Main definitions

* `Numeral`: the parts of a numeral as written.
* `Numeral.scan`: splits a numeral off a text.
* `Numeral.value?`: the integer or floating point number it stands for.
* `numberStyle`: how documents write floating point numbers.
-/

namespace BuildDrift.Json

/-- A number as a document states it. -/
inductive Number where
  /-- A whole number of 64 bits, with or without sign. -/
  | int (value : Int)
  /-- A floating point number. -/
  | float (value : Binary64)
  deriving DecidableEq, Repr, Inhabited

/-- The parts of a numeral, as written. -/
structure Numeral where
  /-- Whether a minus sign stands in front. -/
  negative : Bool := false
  /-- The digits before the point. -/
  whole : List Char
  /-- The digits behind the point; none if there is no point. -/
  fraction : List Char := []
  /-- The sign and the digits of the exponent. -/
  exponent : Option (Bool × List Char) := none
  deriving DecidableEq, Repr, Inhabited

namespace Numeral

/-! ### Splitting a numeral off a text -/

/-- What stands at the start of a text where a numeral begins. -/
inductive Scan where
  /-- A numeral and the text behind it. -/
  | complete (numeral : Numeral) (rest : List Char)
  /-- A broken numeral: the fault where a number is asked for, and where it is passed over. -/
  | broken (asked passed : Fault)

/-- The fault of a missing digit in front of `rest`. -/
def missingDigit (rest : List Char) : Scan :=
  .broken (if rest.isEmpty then .cutShort else .grammar) .grammar

/-- Whether the exponent at the start of a text is negative, and the text behind its sign. -/
def exponentSign : List Char → Bool × List Char
  | '+' :: rest => (false, rest)
  | '-' :: rest => (true, rest)
  | rest => (false, rest)

/-- An exponent, if one follows. -/
def scanExponent (n : Numeral) : List Char → Scan
  | [] => .complete n []
  | c :: rest =>
    if c = 'e' ∨ c = 'E' then
      let digits := (exponentSign rest).2
      if (digits.takeWhile Char.isDigit).isEmpty then missingDigit digits
      else
        .complete
          { n with exponent := some ((exponentSign rest).1, digits.takeWhile Char.isDigit) }
          (digits.dropWhile Char.isDigit)
    else .complete n (c :: rest)

/-- A fraction, if one follows, and an exponent. -/
def scanFraction (n : Numeral) (cs : List Char) : Scan :=
  match cs with
  | '.' :: rest =>
    if (rest.takeWhile Char.isDigit).isEmpty then missingDigit rest
    else
      scanExponent { n with fraction := rest.takeWhile Char.isDigit }
        (rest.dropWhile Char.isDigit)
  | _ => scanExponent n cs

/-- The digits before the point, which begin with zero only if zero is all, and what follows. -/
def scanWhole (negative : Bool) (cs : List Char) : Scan :=
  match cs.takeWhile Char.isDigit with
  | [] => missingDigit cs
  | '0' :: _ :: _ => .broken .grammar .grammar
  | digits => scanFraction { negative := negative, whole := digits } (cs.dropWhile Char.isDigit)

/-- The numeral at the start of a text. -/
def scan : List Char → Scan
  | '-' :: cs => scanWhole true cs
  | cs => scanWhole false cs

theorem length_dropDigits_le (cs : List Char) :
    (cs.dropWhile Char.isDigit).length ≤ cs.length :=
  (List.dropWhile_suffix _).length_le

theorem length_exponentSign_le (cs : List Char) : (exponentSign cs).2.length ≤ cs.length := by
  unfold exponentSign; split <;> simp

theorem length_of_scanExponent {n m : Numeral} {cs rest : List Char}
    (h : scanExponent n cs = .complete m rest) : rest.length ≤ cs.length := by
  cases cs with
  | nil => simp_all [scanExponent]
  | cons c cs =>
    have := length_dropDigits_le (exponentSign cs).2
    have := length_exponentSign_le cs
    simp only [scanExponent, missingDigit, List.length_cons] at h ⊢
    split at h
    · split at h
      · simp at h
      · simp only [Scan.complete.injEq] at h; rw [← h.2]; omega
    · simp only [Scan.complete.injEq] at h; simp [← h.2]

theorem length_of_scanFraction {n m : Numeral} {cs rest : List Char}
    (h : scanFraction n cs = .complete m rest) : rest.length ≤ cs.length := by
  unfold scanFraction at h
  split at h
  · rename_i tail
    have := length_dropDigits_le tail
    split at h
    · simp [missingDigit] at h
    · have := length_of_scanExponent h
      simp only [List.length_cons]; omega
  · exact length_of_scanExponent h

theorem length_of_scanWhole {b : Bool} {m : Numeral} {cs rest : List Char}
    (h : scanWhole b cs = .complete m rest) : rest.length < cs.length := by
  unfold scanWhole at h
  have split_length := congrArg List.length
    (@List.takeWhile_append_dropWhile Char Char.isDigit cs)
  simp only [List.length_append] at split_length
  split at h
  · simp [missingDigit] at h
  · simp at h
  · rename_i nonempty _
    have := length_of_scanFraction h
    have := List.length_pos_iff.mpr nonempty
    omega

/-- What follows a numeral is shorter than the text that the numeral was split off. -/
theorem length_of_scan {m : Numeral} {cs rest : List Char} (h : scan cs = .complete m rest) :
    rest.length < cs.length := by
  unfold scan at h
  split at h
  · have := length_of_scanWhole h
    simp only [List.length_cons]; omega
  · exact length_of_scanWhole h

/-! ### Values -/

/-- The greatest number of 64 bits without sign. -/
def greatestWord : Nat := Nat.pow 2 64 - 1

/-- The leading digits that fit in a word, as a number, and how many digits are left over. -/
def leadingWord (word : Nat) (left : Nat) : List Char → Nat × Nat
  | [] => (word, left)
  | c :: cs =>
    let next := word * 10 + (c.toNat - '0'.toNat)
    if left = 0 ∧ next ≤ greatestWord then leadingWord next 0 cs
    else leadingWord word (left + 1) cs

/-- `magnitude · 10 ^ exponent`, rounded; nothing if it is beyond the greatest number. Powers
below the table of powers of ten are reached by dividing more than once. -/
def scale (fuel : Nat) (magnitude : Nat) (exponent : Int) : Option Nat :=
  let (num, den) := Binary64.ratioOf magnitude
  let power (n : Nat) : Nat × Nat := Binary64.ratioOf (Binary64.magnitude (Nat.pow 10 n) 1)
  if magnitude = 0 then some 0
  else if 308 < exponent then none
  else if 0 ≤ exponent then
    let (pnum, pden) := power exponent.toNat
    let product := Binary64.magnitude (num * pnum) (den * pden)
    if product < Binary64.infiniteMagnitude then some product else none
  else if -308 ≤ exponent then
    let (pnum, pden) := power (-exponent).toNat
    some (Binary64.magnitude (num * pden) (den * pnum))
  else
    match fuel with
    | 0 => some 0
    | fuel + 1 =>
      let (pnum, pden) := power 308
      scale fuel (Binary64.magnitude (num * pden) (den * pnum)) (exponent + 308)

/-- The greatest exponent that is computed with; a greater one is out of range. -/
def greatestExponent : Nat := Nat.pow 2 31 - 1

/-- The floating point number that the numeral stands for, unless it is out of range. -/
def float? (n : Numeral) : Option Binary64 :=
  let (word, left) := leadingWord 0 0 n.whole
  let (word, unused) := leadingWord word 0 n.fraction
  let shift : Int := left - ((n.fraction.length : Int) - unused)
  let (minus, size) := match n.exponent with
    | none => (false, 0)
    | some (minus, digits) => (minus, Nat.ofDigitChars 10 digits 0)
  let result : Option Nat :=
    if greatestExponent < size then if word = 0 ∨ minus then some 0 else none
    else scale 2 (Binary64.magnitude word 1) (if minus then shift - size else shift + size)
  result.map (Binary64.ofMagnitude n.negative)

/-- Whether the numeral has neither fraction nor exponent. -/
def isWhole (n : Numeral) : Bool :=
  n.fraction.isEmpty && n.exponent.isNone

/-- The number that the numeral stands for, unless it is out of range. -/
def value? (n : Numeral) : Option Number :=
  let size := Nat.ofDigitChars 10 n.whole 0
  if n.isWhole && !n.negative && size ≤ greatestWord then some (.int size)
  else if n.isWhole && n.negative && 0 < size && size ≤ Nat.pow 2 63 then
    some (.int (-(size : Int)))
  else n.float?.map Number.float

end Numeral

/-- Documents write an exponent from `1e+16` on and below `0.00001`, and otherwise a point with at
least one digit behind it. -/
def numberStyle : Decimal.Style where
  plain e := -5 ≤ e && e ≤ 15
  pointZero := true
  tieUp := false

end BuildDrift.Json
