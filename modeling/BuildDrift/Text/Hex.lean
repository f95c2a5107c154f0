/-!
# Hexadecimal text

Offsets, opcodes and flag words are written in base sixteen. Writing is `digits` and its padded
form `padded`; reading is `read?`, which takes digits of either case.

## Main definitions

* `Hex.digits`: the digits of a number, in lower case and without leading zeros.
* `Hex.padded`: the digits in upper case, filled up with zeros to a least width.
* `Hex.read?`: the number that a text of digits stands for.
-/

namespace BuildDrift.Hex

/-- The digits of `n` in base sixteen, in lower case, without leading zeros. -/
def digits (n : Nat) : List Char :=
  Nat.toDigits 16 n

/-- The digits of `n` as a text, in lower case. -/
def lower (n : Nat) : String :=
  String.ofList (digits n)

/-- The digits of `n` in upper case, filled up on the left with zeros to at least `width`. -/
def padded (width n : Nat) : String :=
  String.ofList (((digits n).map Char.toUpper).leftpad width '0')

/-- The value of one digit of either case. -/
def digitValue? (c : Char) : Option Nat :=
  if '0' ≤ c ∧ c ≤ '9' then some (c.toNat - '0'.toNat)
  else if 'a' ≤ c ∧ c ≤ 'f' then some (c.toNat - 'a'.toNat + 10)
  else if 'A' ≤ c ∧ c ≤ 'F' then some (c.toNat - 'A'.toNat + 10)
  else none

/-- Continues reading with `n` as the value of the digits already read. -/
def readFrom? (n : Nat) : List Char → Option Nat
  | [] => some n
  | c :: cs => (digitValue? c).bind fun d => readFrom? (16 * n + d) cs

/-- The number that a nonempty text of digits stands for. -/
def read? : List Char → Option Nat
  | [] => none
  | cs => readFrom? 0 cs

end BuildDrift.Hex
