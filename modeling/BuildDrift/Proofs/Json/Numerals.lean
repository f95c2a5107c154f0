import BuildDrift.Json.Value
import BuildDrift.Proofs.Number.Digits

/-!
# Numerals that are written

A numeral is written as its sign, its digits before the point, its fraction and its exponent. What
is written is read back as the numeral, whatever follows, as long as it could not go on with the
numeral. Whole numbers and floating point numbers are written as such numerals, and the numeral of a
whole number of 64 bits stands for that number.

## Main definitions

* `Numeral.chars`: how a numeral is written.
* `Numeral.Proper`: its digits are digits, with no zero in front.
* `Numeral.ofInt`: the numeral of a whole number.

## Main results

* `Numeral.scan_chars`: a proper numeral is read back.
* `Numeral.value?_ofInt`: the numeral of a whole number of 64 bits stands for it.
-/

namespace BuildDrift.Json

/-- A text cannot go on with a numeral that stands in front of it. -/
def Breaks (rest : List Char) : Prop :=
  ∀ c ∈ rest.head?, ¬(c.isDigit ∨ c = '.' ∨ c = 'e' ∨ c = 'E')

theorem Breaks.not_isDigit {rest : List Char} (h : Breaks rest) :
    ∀ c ∈ rest.head?, ¬c.isDigit = true :=
  fun c hc hdigit => h c hc (.inl hdigit)

namespace Numeral

/-- How a fraction is written; none is not written at all. -/
def fractionChars (fraction : List Char) : List Char :=
  if fraction.isEmpty then [] else '.' :: fraction

/-- How an exponent is written, if there is one. -/
def exponentChars : Option (Bool × List Char) → List Char
  | none => []
  | some (minus, digits) => 'e' :: (if minus then '-' else '+') :: digits

/-- How the part of a numeral without its sign is written. -/
def unsignedChars (n : Numeral) : List Char :=
  n.whole ++ (fractionChars n.fraction ++ exponentChars n.exponent)

/-- How a numeral is written. -/
def chars (n : Numeral) : List Char :=
  if n.negative then '-' :: n.unsignedChars else n.unsignedChars

/-- The digits of a numeral are digits; there are some before the point and in the exponent, and
those before the point begin with zero only if zero is all. -/
structure Proper (n : Numeral) : Prop where
  whole_ne_nil : n.whole ≠ []
  isDigit_whole : ∀ c ∈ n.whole, c.isDigit
  whole_ne_zero : ∀ c rest, n.whole ≠ '0' :: c :: rest
  isDigit_fraction : ∀ c ∈ n.fraction, c.isDigit
  exponent : ∀ minus digits, n.exponent = some (minus, digits) →
    digits ≠ [] ∧ ∀ c ∈ digits, c.isDigit

/-! ### Reading numerals back -/

section Scan

variable {n : Numeral} {digits rest : List Char}

/-- Digits in front of something else are split off. -/
theorem span_digits (hdigits : ∀ c ∈ digits, c.isDigit)
    (hrest : ∀ c ∈ rest.head?, ¬c.isDigit = true) :
    (digits ++ rest).takeWhile Char.isDigit = digits ∧
      (digits ++ rest).dropWhile Char.isDigit = rest := by
  rw [List.takeWhile_append_of_pos hdigits, List.dropWhile_append_of_pos hdigits]
  cases rest with
  | nil => simp
  | cons c rest =>
    have hc := hrest c rfl
    simp [hc]

theorem scanExponent_chars (hn : n.Proper) (hrest : Breaks rest) :
    scanExponent { n with exponent := none } (exponentChars n.exponent ++ rest) =
      .complete n rest := by
  obtain ⟨negative, whole, fraction, exponent⟩ := n
  cases exponent with
  | none =>
    cases rest with
    | nil => rfl
    | cons c rest =>
      rw [exponentChars, List.nil_append, scanExponent,
        if_neg fun h => hrest c rfl (.inr (.inr h))]
  | some exponent =>
    obtain ⟨minus, digits⟩ := exponent
    obtain ⟨hne, hdigits⟩ := hn.exponent minus digits rfl
    obtain ⟨htake, hdrop⟩ := span_digits hdigits hrest.not_isDigit
    have hsign : exponentSign ((if minus then '-' else '+') :: (digits ++ rest)) =
        (minus, digits ++ rest) := by
      cases minus <;> rfl
    rw [exponentChars, List.cons_append, List.cons_append, scanExponent, if_pos (.inl rfl), hsign]
    dsimp only
    rw [htake, hdrop, if_neg (by simpa using hne)]

/-- What stands behind the fraction cannot go on with its digits. -/
theorem head?_exponentChars (n : Numeral) (hrest : Breaks rest) :
    ∀ c ∈ (exponentChars n.exponent ++ rest).head?, ¬(c.isDigit = true ∨ c = '.') := by
  cases n.exponent with
  | none => exact fun c hc h => hrest c hc (h.imp_right .inl)
  | some exponent =>
    rintro c ⟨⟩
    decide

theorem scanFraction_chars (hn : n.Proper) (hrest : Breaks rest) :
    scanFraction { n with fraction := [], exponent := none }
      (fractionChars n.fraction ++ (exponentChars n.exponent ++ rest)) = .complete n rest := by
  have hhead := head?_exponentChars n hrest
  have hexponent := scanExponent_chars hn hrest
  cases hfraction : n.fraction with
  | nil =>
    rw [hfraction] at hexponent
    rw [fractionChars, List.isEmpty_nil, if_pos rfl, List.nil_append, scanFraction]
    · exact hexponent
    · intro tail htail
      exact hhead '.' (htail ▸ rfl) (.inr rfl)
  | cons c digits =>
    obtain ⟨htake, hdrop⟩ := span_digits (hfraction ▸ hn.isDigit_fraction)
      fun c hc hdigit => hhead c hc (.inl hdigit)
    rw [fractionChars, List.isEmpty_cons, if_neg (by simp), List.cons_append, scanFraction]
    simp only [htake, hdrop, List.isEmpty_cons, Bool.false_eq_true, if_false]
    rw [← hfraction]
    exact hexponent

theorem scanWhole_chars (hn : n.Proper) (hrest : Breaks rest) :
    scanWhole n.negative (n.unsignedChars ++ rest) = .complete n rest := by
  have hhead : ∀ c ∈ (fractionChars n.fraction ++ (exponentChars n.exponent ++ rest)).head?,
      ¬c.isDigit = true := by
    cases n.fraction with
    | nil => exact fun c hc hdigit => head?_exponentChars n hrest c hc (.inl hdigit)
    | cons =>
      rintro c ⟨⟩
      decide
  obtain ⟨htake, hdrop⟩ := span_digits hn.isDigit_whole hhead
  rw [unsignedChars, List.append_assoc, List.append_assoc, scanWhole, htake, hdrop]
  split
  · next h => exact absurd h hn.whole_ne_nil
  · next h => exact absurd h (hn.whole_ne_zero _ _)
  · exact scanFraction_chars hn hrest

/-- A proper numeral begins with a digit behind its sign. -/
theorem exists_head_unsignedChars (hn : n.Proper) :
    ∃ c tail, n.unsignedChars = c :: tail ∧ c.isDigit := by
  cases hwhole : n.whole with
  | nil => exact absurd hwhole hn.whole_ne_nil
  | cons c digits =>
    exact ⟨c, _, by rw [unsignedChars, hwhole, List.cons_append],
      hn.isDigit_whole c (hwhole ▸ List.mem_cons_self)⟩

/-- A proper numeral is read back, whatever follows. -/
theorem scan_chars (hn : n.Proper) (hrest : Breaks rest) :
    scan (n.chars ++ rest) = .complete n rest := by
  have hwhole := scanWhole_chars hn hrest
  rw [chars]
  split_ifs with hnegative
  · rw [hnegative] at hwhole
    exact hwhole
  · rw [Bool.not_eq_true] at hnegative
    rw [hnegative] at hwhole
    obtain ⟨c, tail, hc, hdigit⟩ := exists_head_unsignedChars hn
    rw [hc, List.cons_append] at hwhole ⊢
    rw [scan]
    · exact hwhole
    · rintro cs ⟨⟩
      exact absurd hdigit (by decide)

/-- A proper numeral begins with its sign or with a digit. -/
theorem exists_head_chars (hn : n.Proper) :
    ∃ c tail, n.chars = c :: tail ∧ (c = '-' ∨ c.isDigit) := by
  obtain ⟨c, tail, hc, hdigit⟩ := exists_head_unsignedChars hn
  rw [chars]
  split_ifs
  · exact ⟨_, _, rfl, .inl rfl⟩
  · exact ⟨c, tail, hc, .inr hdigit⟩

end Scan

/-! ### Whole numbers -/

theorem toDigits_ne_zero (n : ℕ) (c : Char) (rest : List Char) :
    Nat.toDigits 10 n ≠ '0' :: c :: rest := by
  intro h
  rcases Nat.eq_zero_or_pos n with rfl | hn
  · rw [Nat.toDigits_zero] at h
    simp at h
  · exact Decimal.head?_toDigits hn (h ▸ rfl)

/-- The numeral of a whole number. -/
def ofInt (i : Int) : Numeral where
  negative := i < 0
  whole := Nat.toDigits 10 i.natAbs

theorem proper_ofInt (i : Int) : (ofInt i).Proper where
  whole_ne_nil := Nat.toDigits_ne_nil
  isDigit_whole _ hc := Nat.isDigit_of_mem_toDigits (by decide) (by decide) hc
  whole_ne_zero := toDigits_ne_zero i.natAbs
  isDigit_fraction := by simp [ofInt]
  exponent := by simp [ofInt]

/-- Whole numbers are written as their numerals. -/
theorem chars_ofInt (i : Int) : (ofInt i).chars = (toString i).toList := by
  have hunsigned : (ofInt i).unsignedChars = Nat.toDigits 10 i.natAbs := by
    simp [unsignedChars, ofInt, fractionChars, exponentChars]
  rw [chars, hunsigned]
  cases i with
  | ofNat n => exact Nat.toList_repr.symm
  | negSucc n =>
    have h : toString (Int.negSucc n) = "-" ++ Nat.repr (n + 1) := rfl
    have hminus : "-".toList = ['-'] := by decide
    have hnegative : (ofInt (Int.negSucc n)).negative = true :=
      decide_eq_true (Int.negSucc_lt_zero n)
    rw [h, String.toList_append, Nat.toList_repr, hminus, if_pos hnegative]
    rfl

/-- The numeral of a whole number of 64 bits, with or without sign, stands for it. -/
theorem value?_ofInt {i : Int} (hlow : -9223372036854775808 ≤ i)
    (hhigh : i ≤ 18446744073709551615) :
    (ofInt i).value? = some (.int i) := by
  have hsize : Nat.ofDigitChars 10 (ofInt i).whole 0 = i.natAbs := Nat.ofDigitChars_ten_toDigits
  have hwhole : (ofInt i).isWhole = true := rfl
  have hword : greatestWord = 18446744073709551615 := rfl
  have hhalf : Nat.pow 2 63 = 9223372036854775808 := rfl
  have hnegative : (ofInt i).negative = decide (i < 0) := rfl
  rw [value?, hsize, hwhole, hword, hhalf, hnegative]
  by_cases hneg : i < 0
  · have hbounds : 0 < i.natAbs ∧ i.natAbs ≤ 9223372036854775808 := by omega
    have hvalue : -(i.natAbs : Int) = i := by omega
    rw [if_neg (by simp [hneg]), if_pos (by simp [hneg, hbounds]), hvalue]
  · have hbound : i.natAbs ≤ 18446744073709551615 := by omega
    have hvalue : (i.natAbs : Int) = i := by omega
    rw [if_pos (by simp [hneg, hbound]), hvalue]

/-! ### Floating point numbers -/

/-- The digits behind the point of a number without exponent; there is at least one. -/
def fractionOf (digits : List Char) : List Char :=
  if digits.isEmpty then ['0'] else digits

/-- The numeral of a floating point number with these digits. -/
def ofDigits (negative : Bool) (d : Decimal.Digits) : Numeral :=
  if numberStyle.plain d.exponent then
    if d.exponent < 0 then
      { negative, whole := ['0']
        fraction := List.replicate (-d.exponent - 1).toNat '0' ++ d.digits }
    else
      { negative
        whole := (d.digits.take (d.exponent.toNat + 1)).rightpad (d.exponent.toNat + 1) '0'
        fraction := fractionOf (d.digits.drop (d.exponent.toNat + 1)) }
  else
    { negative, whole := d.digits.take 1, fraction := d.digits.drop 1
      exponent := some (d.exponent < 0, Nat.toDigits 10 d.exponent.natAbs) }

/-- The numeral of a floating point number. -/
def ofBinary64 (x : Binary64) : Numeral :=
  ofDigits x.isNegative
    (if x.unsignedBits = 0 then ⟨['0'], 0⟩ else Decimal.shortest numberStyle.tieUp x.unsignedBits)

theorem proper_ofDigits (negative : Bool) {d : Decimal.Digits} (hd : d.Proper) :
    (ofDigits negative d).Proper := by
  have hreplicate {n : ℕ} : ∀ c ∈ List.replicate n '0', c.isDigit := fun c hc =>
    List.eq_of_mem_replicate hc ▸ rfl
  have hdrop {n : ℕ} : ∀ c ∈ d.digits.drop n, c.isDigit := fun c hc =>
    hd.isDigit c (List.mem_of_mem_drop hc)
  have htake {n : ℕ} : ∀ c ∈ d.digits.take n, c.isDigit := fun c hc =>
    hd.isDigit c (List.mem_of_mem_take hc)
  obtain ⟨c, digits, hdigits⟩ := List.exists_cons_of_ne_nil hd.ne_nil
  rw [ofDigits]
  split_ifs with hplain hneg
  · exact ⟨by simp, by simp, by simp,
      fun c hc => (List.mem_append.1 hc).elim (hreplicate c) (hd.isDigit c), by simp⟩
  · refine ⟨by simp [hdigits, List.rightpad], fun c hc => ?_, fun c' rest h => ?_, fun c hc => ?_,
      by simp⟩
    · exact (List.mem_append.1 hc).elim (htake c) (hreplicate c)
    · have hzero : d.digits.head? = some '0' := by
        rw [hdigits, List.take_succ_cons, List.rightpad, List.cons_append, List.cons.injEq] at h
        rw [hdigits, List.head?_cons, h.1]
      obtain ⟨hdigits, hexponent⟩ := hd.zero hzero
      simp [hdigits, hexponent, List.rightpad] at h
    · rw [fractionOf] at hc
      split_ifs at hc
      · exact List.mem_singleton.1 hc ▸ rfl
      · exact hdrop c hc
  · refine ⟨by simp [hdigits], htake, by simp [hdigits], hdrop, ?_⟩
    rintro minus digits' ⟨⟩
    exact ⟨Nat.toDigits_ne_nil, fun c hc =>
      Nat.isDigit_of_mem_toDigits (by decide) (by decide) hc⟩

theorem proper_digits (x : Binary64) : Decimal.Digits.Proper
    (if x.unsignedBits = 0 then ⟨['0'], 0⟩
      else Decimal.shortest numberStyle.tieUp x.unsignedBits) := by
  split_ifs with hx
  · exact Decimal.Digits.proper_zero
  · exact Decimal.proper_shortest (Nat.pos_of_ne_zero hx) _

theorem proper_ofBinary64 (x : Binary64) : (ofBinary64 x).Proper :=
  proper_ofDigits _ (proper_digits x)

theorem unsignedChars_ofDigits (negative : Bool) {d : Decimal.Digits} (hd : d.Proper) :
    (ofDigits negative d).unsignedChars =
      if numberStyle.plain d.exponent then Decimal.positional numberStyle.pointZero d
      else Decimal.scientific d := by
  obtain ⟨c, digits, hdigits⟩ := List.exists_cons_of_ne_nil hd.ne_nil
  rw [ofDigits, unsignedChars]
  split_ifs with hplain hneg
  · rw [Decimal.positional, if_pos hneg]
    simp [fractionChars, exponentChars, hdigits]
  · rw [Decimal.positional, if_neg hneg]
    have hzero : numberStyle.pointZero = true := rfl
    simp only [fractionOf, hzero, if_true, exponentChars, List.append_nil]
    split_ifs with hempty
    · rfl
    · rw [fractionChars, if_neg hempty]
  · rw [Decimal.scientific]
    cases digits <;> simp [hdigits, fractionChars, exponentChars]

/-- Floating point numbers are written as their numerals. -/
theorem chars_ofBinary64 (x : Binary64) :
    (ofBinary64 x).chars = (Decimal.render numberStyle x).toList := by
  have hnegative : (ofBinary64 x).negative = x.isNegative := by
    rw [ofBinary64, ofDigits]
    split_ifs <;> rfl
  have hunsigned := unsignedChars_ofDigits x.isNegative (proper_digits x)
  rw [Decimal.render, String.toList_ofList, chars, hnegative]
  exact if_congr Iff.rfl (congrArg _ hunsigned) hunsigned

end Numeral

end BuildDrift.Json
