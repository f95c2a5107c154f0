import BuildDrift.Proofs.Json.Numerals
import BuildDrift.Proofs.Number.Shortest
import Mathlib.Data.Nat.Log

/-!
# Numerals of floating point numbers are in range

A numeral is read from its leading digits, as far as they fit in a word, and a power of ten. The
digits that do not fit are left out, so what is read does not exceed what is written. The word and
the power are each rounded, and their product is rounded once more. Rounding is monotone, so it is
enough that the greatest words and powers up to the limit do not lead out of range, and these are
few. So the numeral of every finite number stands for a floating point number, although not always
for the one that was written.

## Main definitions

* `Numeral.absolute`: the absolute value of a numeral.

## Main results

* `Numeral.leadingWord_mul_le`: the leading digits do not exceed the digits.
* `Numeral.product_lt_infiniteMagnitude`: up to the limit no product is out of range.
* `Numeral.exists_value?_ofBinary64`: the numeral of a finite number stands for a floating point
  number.
-/

namespace BuildDrift.Json.Numeral

open Binary64 (magnitude infiniteMagnitude ratioOf quotient)
open Decimal (limit)

/-! ### The leading digits -/

theorem ofDigitChars_le_ofDigitChars {word word' : ℕ} (h : word ≤ word') (cs : List Char) :
    Nat.ofDigitChars 10 cs word ≤ Nat.ofDigitChars 10 cs word' := by
  rw [Nat.ofDigitChars_eq_ofDigitChars_zero, @Nat.ofDigitChars_eq_ofDigitChars_zero cs word']
  exact Nat.add_le_add_right (Nat.mul_le_mul_left _ h) _

theorem le_ofDigitChars (word : ℕ) (cs : List Char) : word ≤ Nat.ofDigitChars 10 cs word := by
  rw [Nat.ofDigitChars_eq_ofDigitChars_zero]
  exact (Nat.le_mul_of_pos_left _ (Nat.pow_pos (by decide))).trans (Nat.le_add_right _ _)

theorem ofDigitChars_lt {cs : List Char} (h : ∀ c ∈ cs, c.isDigit) :
    Nat.ofDigitChars 10 cs 0 < 10 ^ cs.length := by
  induction cs with
  | nil => exact Nat.one_pos
  | cons c cs ih =>
    have hdigit : c.toNat - '0'.toNat ≤ 9 := by
      have hc := h c List.mem_cons_self
      rw [Char.isDigit_iff_toNat] at hc
      exact Nat.sub_le_of_le_add hc.2
    have hrest := ih fun c hc => h c (List.mem_cons_of_mem _ hc)
    rw [Nat.ofDigitChars_cons, Nat.ofDigitChars_eq_ofDigitChars_zero, List.length_cons,
      Nat.pow_succ, Nat.mul_zero, Nat.zero_add]
    have hfirst := Nat.mul_le_mul_left (10 ^ cs.length) hdigit
    omega

theorem leadingWord_le {word : ℕ} (h : word ≤ greatestWord) (left : ℕ) (cs : List Char) :
    (leadingWord word left cs).1 ≤ greatestWord := by
  induction cs generalizing word left with
  | nil => exact h
  | cons c cs ih =>
    rw [leadingWord]
    split_ifs with hfits
    · exact ih hfits.2 _
    · exact ih h _

/-- The leading digits, and zeros for those that are left over, do not exceed the digits. -/
theorem leadingWord_mul_le (word left : ℕ) (cs : List Char) :
    (leadingWord word left cs).1 * 10 ^ (leadingWord word left cs).2 ≤
      Nat.ofDigitChars 10 cs (word * 10 ^ left) := by
  induction cs generalizing word left with
  | nil => exact Nat.le_refl _
  | cons c cs ih =>
    rw [leadingWord, Nat.ofDigitChars_cons]
    split_ifs with hfits
    · obtain ⟨rfl, -⟩ := hfits
      refine (ih _ _).trans (Nat.le_of_eq ?_)
      rw [Nat.pow_zero, Nat.mul_one, Nat.mul_one, Nat.mul_comm 10]
    · refine (ih _ _).trans (ofDigitChars_le_ofDigitChars ?_ cs)
      rw [Nat.pow_succ, ← Nat.mul_assoc]
      omega

/-- No digit is left over if all of them fit. -/
theorem leadingWord_eq {word : ℕ} {cs : List Char}
    (h : Nat.ofDigitChars 10 cs word ≤ greatestWord) :
    leadingWord word 0 cs = (Nat.ofDigitChars 10 cs word, 0) := by
  induction cs generalizing word with
  | nil => rfl
  | cons c cs ih =>
    rw [Nat.ofDigitChars_cons, Nat.mul_comm] at h
    rw [leadingWord, if_pos ⟨rfl, (le_ofDigitChars _ cs).trans h⟩, ih h, Nat.ofDigitChars_cons,
      Nat.mul_comm]

/-! ### Powers of ten -/

/-- The number of a pattern times a rounded power of ten, rounded. -/
def product (k power : ℕ) : ℕ :=
  magnitude ((ratioOf k).1 * (ratioOf (magnitude (Nat.pow 10 power) 1)).1)
    ((ratioOf k).2 * (ratioOf (magnitude (Nat.pow 10 power) 1)).2)

/-- Neither a greater number nor a greater power gives a smaller product. -/
theorem product_le_product {k l power power' : ℕ} (hk : k ≤ l) (hpower : power ≤ power') :
    product k power ≤ product l power' := by
  have hpos (k : ℕ) : 0 < (ratioOf k).2 := Binary64.scaled_snd_pos _ _
  refine Binary64.magnitude_le_magnitude (Nat.mul_pos (hpos _) (hpos _))
    (Nat.mul_pos (hpos _) (hpos _)) ?_
  have hten : magnitude (Nat.pow 10 power) 1 ≤ magnitude (Nat.pow 10 power') 1 := by
    refine Binary64.magnitude_le_magnitude Nat.one_pos Nat.one_pos ?_
    have hpow : Nat.pow 10 power ≤ Nat.pow 10 power' := Nat.pow_le_pow_right (by decide) hpower
    gcongr
  have hfirst := Binary64.value_le_value hk
  have hsecond := Binary64.value_le_value hten
  rw [Binary64.value, quotient, Binary64.value, quotient] at hfirst hsecond
  rw [Nat.cast_mul, Nat.cast_mul, Nat.cast_mul, Nat.cast_mul, mul_div_mul_comm, mul_div_mul_comm]
  gcongr

/-- The powers of ten up to the limit. -/
theorem lt_of_pow_le_limit {power : ℕ} (h : Nat.pow 10 power ≤ limit) : power < 309 := by
  have hlimit : Nat.log 10 limit < 309 := by decide +kernel
  exact (Nat.le_log_of_pow_le (by decide) h).trans_lt hlimit

/-- The greatest word that does not exceed the limit together with a power of ten. -/
def greatestLeading (power : ℕ) : ℕ :=
  min greatestWord (limit / Nat.pow 10 power)

/-- From `10 ^ 288` on the limit is what bounds the word. -/
theorem product_greatestLeading_lt : ∀ n < 21,
    product (magnitude (greatestLeading (288 + n)) 1) (288 + n) < infiniteMagnitude := by
  decide +kernel

/-- Up to the limit no product is out of range. -/
theorem product_lt_infiniteMagnitude {word power : ℕ} (hpower : power < 309)
    (hword : word ≤ greatestWord) (h : word * Nat.pow 10 power ≤ limit) :
    product (magnitude word 1) power < infiniteMagnitude := by
  have hle : word ≤ greatestLeading (288 + (power - 288)) := by
    rcases le_or_gt power 288 with hsmall | hlarge
    · have hfits : greatestLeading 288 = greatestWord := by decide +kernel
      rw [Nat.sub_eq_zero_of_le hsmall, Nat.add_zero, hfits]
      exact hword
    · rw [Nat.add_sub_cancel' hlarge.le]
      exact Nat.le_min.2 ⟨hword, (Nat.le_div_iff_mul_le (Nat.pow_pos (by decide))).2 h⟩
  have hmagnitude : magnitude word 1 ≤ magnitude (greatestLeading (288 + (power - 288))) 1 := by
    refine Binary64.magnitude_le_magnitude Nat.one_pos Nat.one_pos ?_
    gcongr
  exact (product_le_product hmagnitude (by omega)).trans_lt
    (product_greatestLeading_lt (power - 288) (by omega))

/-- A negative power of ten does not lead out of range. -/
theorem isSome_scale_of_neg {exponent : ℤ} (h : exponent < 0) (fuel k : ℕ) :
    (scale fuel k exponent).isSome := by
  induction fuel generalizing k exponent with
  | zero =>
    rw [scale]
    dsimp only
    split_ifs
    · rfl
    · omega
    · omega
    · omega
    · rfl
    · rfl
  | succ fuel ih =>
    rw [scale]
    dsimp only
    split_ifs
    · rfl
    · omega
    · omega
    · omega
    · rfl
    · exact ih (by omega) _

/-- A word and a power of ten up to the limit are in range. -/
theorem isSome_scale {word : ℕ} {exponent : ℤ} (hword : word ≤ greatestWord)
    (h : (word : ℚ) * 10 ^ exponent ≤ limit) (fuel : ℕ) :
    (scale fuel (magnitude word 1) exponent).isSome := by
  rcases lt_or_ge exponent 0 with hneg | hnonneg
  · exact isSome_scale_of_neg hneg _ _
  obtain ⟨power, rfl⟩ := Int.eq_ofNat_of_zero_le hnonneg
  rcases Nat.eq_zero_or_pos word with rfl | hpos
  · rw [scale.eq_def]
    rfl
  have hle : word * Nat.pow 10 power ≤ limit := by
    rw [zpow_natCast] at h
    exact_mod_cast h
  have hpower : power < 309 :=
    lt_of_pow_le_limit ((Nat.le_mul_of_pos_left (Nat.pow 10 power) hpos).trans hle)
  have hproduct := product_lt_infiniteMagnitude hpower hword hle
  rw [product] at hproduct
  rw [scale.eq_def]
  dsimp only
  rw [if_neg (show ¬(308 : ℤ) < power by omega), if_pos (Int.natCast_nonneg power),
    Int.toNat_natCast, if_pos hproduct]
  split_ifs <;> rfl

/-! ### Reading a numeral -/

/-- The exponent of a numeral as a number; none counts as zero. -/
def power (n : Numeral) : ℤ :=
  match n.exponent with
  | none => 0
  | some (minus, digits) =>
    if minus then -(Nat.ofDigitChars 10 digits 0 : ℤ) else Nat.ofDigitChars 10 digits 0

/-- The absolute value of a numeral. -/
def absolute (n : Numeral) : ℚ :=
  Nat.ofDigitChars 10 (n.whole ++ n.fraction) 0 * 10 ^ (n.power - n.fraction.length)

/-- A numeral up to the limit is in range, if its digits before the point fit in a word and its
exponent is one that is computed with. -/
theorem isSome_float? {n : Numeral} (hwhole : Nat.ofDigitChars 10 n.whole 0 ≤ greatestWord)
    (hpower : n.power ≤ greatestExponent) (h : n.absolute ≤ limit) : n.float?.isSome := by
  set whole := Nat.ofDigitChars 10 n.whole 0 with hw
  set word := (leadingWord whole 0 n.fraction).1
  set unused := (leadingWord whole 0 n.fraction).2
  have hword : word ≤ greatestWord := leadingWord_le hwhole _ _
  -- What is left out of the fraction makes the number smaller.
  have hle : (word : ℚ) * 10 ^ (n.power - (n.fraction.length - unused)) ≤ limit := by
    have hread := leadingWord_mul_le whole 0 n.fraction
    rw [Nat.pow_zero, Nat.mul_one, hw, ← Nat.ofDigitChars_append] at hread
    have hcast : (word : ℚ) * 10 ^ unused ≤ Nat.ofDigitChars 10 (n.whole ++ n.fraction) 0 := by
      exact_mod_cast hread
    have hsum : n.power - ((n.fraction.length : ℤ) - unused) =
        unused + (n.power - n.fraction.length) := by
      ring
    rw [hsum, zpow_add₀ (by norm_num), zpow_natCast, ← mul_assoc]
    exact (mul_le_mul_of_nonneg_right hcast (by positivity)).trans h
  have hscale := isSome_scale hword hle 2
  rw [power] at hpower hscale
  rw [float?, Option.isSome_map, leadingWord_eq hwhole]
  dsimp only
  rcases hexponent : n.exponent with _ | ⟨minus, digits⟩
  · rw [hexponent] at hscale
    rw [if_neg (Nat.not_lt_zero _), if_neg Bool.false_ne_true, Nat.cast_zero, add_zero]
    exact hscale
  · rw [hexponent] at hscale hpower
    rw [Nat.cast_zero, zero_sub]
    cases minus with
    | false =>
      have hsize : Nat.ofDigitChars 10 digits 0 ≤ greatestExponent := Int.ofNat_le.1 hpower
      rw [if_neg (Nat.not_lt.2 hsize), if_neg Bool.false_ne_true, neg_add_eq_sub]
      exact hscale
    | true =>
      rw [if_pos rfl, neg_sub_left, neg_add']
      split_ifs with hsize hzero
      · rfl
      · exact absurd (.inr rfl) hzero
      · exact hscale

/-! ### Numerals that are written -/

/-- The exponent is written only if the digits have to be read without a point. -/
theorem power_ofDigits (negative : Bool) (d : Decimal.Digits) : (ofDigits negative d).power =
    if numberStyle.plain d.exponent then 0 else d.exponent := by
  rw [ofDigits]
  split_ifs with hplain hneg
  · rfl
  · rfl
  · rw [power]
    simp only [decide_eq_true_eq, Nat.ofDigitChars_ten_toDigits]
    split_ifs <;> omega

/-- The numeral of digits has their value. -/
theorem absolute_ofDigits (negative : Bool) {d : Decimal.Digits} (hd : d.Proper) :
    (ofDigits negative d).absolute = d.value := by
  have hlength : 0 < d.digits.length := List.length_pos_of_ne_nil hd.ne_nil
  rw [absolute, power_ofDigits, ofDigits, Decimal.Digits.value]
  split_ifs with hplain hneg
  · have hzeros : Nat.ofDigitChars 10 (['0'] ++ (List.replicate (-d.exponent - 1).toNat '0' ++
        d.digits)) 0 = Nat.ofDigitChars 10 d.digits 0 := by
      rw [Nat.ofDigitChars_append, Nat.ofDigitChars_append, Nat.ofDigitChars_replicate_zero]
      rfl
    rw [hzeros, List.length_append, List.length_replicate]
    congr 2
    push_cast
    omega
  · obtain ⟨n, hn⟩ := Int.eq_ofNat_of_zero_le (not_lt.1 hneg)
    rw [hn, Int.toNat_natCast, List.rightpad]
    rcases le_or_gt d.digits.length (n + 1) with hshort | hlong
    · -- Zeros are written up to the point, and one behind it.
      rw [List.drop_of_length_le hshort, List.take_of_length_le hshort, fractionOf,
        List.isEmpty_nil, if_pos rfl, Nat.ofDigitChars_append, Nat.ofDigitChars_append,
        Nat.ofDigitChars_replicate_zero, List.length_singleton]
      obtain ⟨m, hm⟩ := Nat.exists_eq_add_of_le hshort
      have hzero : Nat.ofDigitChars 10 ['0'] (10 ^ m * Nat.ofDigitChars 10 d.digits 0) =
          10 * (10 ^ m * Nat.ofDigitChars 10 d.digits 0) := rfl
      have hexponent : (n : ℤ) - ((d.digits.length : ℤ) - 1) = m := by omega
      rw [hexponent, hm, Nat.add_sub_cancel_left, hzero, zpow_natCast]
      push_cast
      rw [zpow_neg_one]
      ring
    · have hne : d.digits.drop (n + 1) ≠ [] := by simpa using hlong
      rw [fractionOf, if_neg (by simpa using hne), List.length_take, Nat.min_eq_left hlong.le,
        Nat.sub_self, List.replicate_zero, List.append_nil, List.take_append_drop,
        List.length_drop]
      congr 2
      push_cast [Nat.cast_sub hlong.le]
      ring
  · rw [List.take_append_drop, List.length_drop, Nat.cast_sub hlength, Nat.cast_one]

/-- At most 16 digits are written in front of the point. -/
theorem length_whole_ofDigits_le (negative : Bool) (d : Decimal.Digits) :
    (ofDigits negative d).whole.length ≤ 16 := by
  rw [ofDigits]
  split_ifs with hplain hneg
  · exact Nat.one_le_ofNat
  · have hbound : d.exponent ≤ 15 := of_decide_eq_true (Bool.and_eq_true _ _ ▸ hplain).2
    rw [List.rightpad, List.length_append, List.length_replicate, List.length_take]
    omega
  · exact (List.length_take_le _ _).trans (by decide)

/-- Digits that do not begin with zero are at least the power of ten of the first one. -/
theorem ten_zpow_le_value {d : Decimal.Digits} (hd : d.Proper) (h : d.digits.head? ≠ some '0') :
    (10 : ℚ) ^ d.exponent ≤ d.value := by
  obtain ⟨c, rest, hdigits⟩ := List.exists_cons_of_ne_nil hd.ne_nil
  have hfirst : 1 ≤ c.toNat - '0'.toNat := by
    have hdigit := hd.isDigit c (hdigits ▸ List.mem_cons_self)
    rw [Char.isDigit_iff_toNat] at hdigit
    have hne : c.toNat ≠ '0'.toNat := fun heq => h (by
      rw [hdigits, List.head?_cons, Char.toNat_inj.1 heq])
    omega
  have hnumber : 10 ^ rest.length ≤ Nat.ofDigitChars 10 d.digits 0 := by
    rw [hdigits, Nat.ofDigitChars_cons, Nat.ofDigitChars_eq_ofDigitChars_zero, Nat.mul_zero,
      Nat.zero_add]
    exact (Nat.le_mul_of_pos_right _ hfirst).trans (Nat.le_add_right _ _)
  have hcast : (10 : ℚ) ^ rest.length ≤ Nat.ofDigitChars 10 d.digits 0 := by
    exact_mod_cast hnumber
  have hlength : d.exponent - ((d.digits.length : ℤ) - 1) = -rest.length + d.exponent := by
    rw [hdigits, List.length_cons]
    push_cast
    ring
  calc (10 : ℚ) ^ d.exponent = 10 ^ rest.length * 10 ^ (-(rest.length : ℤ) + d.exponent) := by
        rw [zpow_add₀ (by norm_num), ← mul_assoc, zpow_neg, zpow_natCast,
          mul_inv_cancel₀ (by positivity), one_mul]
    _ ≤ d.value := by
        rw [Decimal.Digits.value, hlength]
        gcongr

/-- The numeral of digits up to the limit is in range. -/
theorem isSome_float?_ofDigits (negative : Bool) {d : Decimal.Digits} (hd : d.Proper)
    (h : d.value ≤ limit) : (ofDigits negative d).float?.isSome := by
  have hwhole : Nat.ofDigitChars 10 (ofDigits negative d).whole 0 ≤ greatestWord := by
    have hlt := ofDigitChars_lt (proper_ofDigits negative hd).isDigit_whole
    have hpow : 10 ^ (ofDigits negative d).whole.length ≤ 10 ^ 16 :=
      Nat.pow_le_pow_right (by decide) (length_whole_ofDigits_le negative d)
    exact hlt.le.trans (hpow.trans (by decide))
  refine isSome_float? hwhole ?_ ((absolute_ofDigits negative hd).trans_le h)
  rw [power_ofDigits]
  split_ifs with hplain
  · exact Int.natCast_nonneg _
  · have hzero : d.digits.head? ≠ some '0' := fun hzero => hplain ((hd.zero hzero).2 ▸ rfl)
    have hpow := (ten_zpow_le_value hd hzero).trans h
    have hgreatest : (309 : ℤ) ≤ greatestExponent := by decide
    rcases lt_or_ge d.exponent 0 with hneg | hnonneg
    · omega
    · obtain ⟨n, hn⟩ := Int.eq_ofNat_of_zero_le hnonneg
      rw [hn, zpow_natCast] at hpow
      have hlt : n < 309 := lt_of_pow_le_limit (by exact_mod_cast hpow)
      omega

/-- The numeral of digits has a fraction or an exponent. -/
theorem isWhole_ofDigits (negative : Bool) {d : Decimal.Digits} (hd : d.Proper) :
    (ofDigits negative d).isWhole = false := by
  rw [ofDigits]
  split_ifs with hplain hneg
  · simp [isWhole, hd.ne_nil]
  · have hne (digits : List Char) : (fractionOf digits).isEmpty = false := by
      cases digits <;> rfl
    rw [isWhole, hne, Bool.false_and]
  · simp [isWhole]

/-- The digits of the greatest number are beyond the limit, but its numeral is in range. -/
theorem isSome_float?_greatest : ∀ negative, (ofDigits negative
    (Decimal.shortest numberStyle.tieUp (infiniteMagnitude - 1))).float?.isSome := by
  decide +kernel

/-- The numeral of a finite number stands for a floating point number. -/
theorem exists_value?_ofBinary64 {x : Binary64} (h : x.isFinite) :
    ∃ y, (ofBinary64 x).value? = some (.float y) := by
  have hfloat : (ofBinary64 x).float?.isSome := by
    rw [ofBinary64]
    rcases Nat.eq_zero_or_pos x.unsignedBits with hzero | hpos
    · rw [if_pos hzero]
      exact isSome_float?_ofDigits _ Decimal.Digits.proper_zero
        (Decimal.Digits.value_zero.trans_le (Nat.cast_nonneg _))
    · rw [if_neg hpos.ne']
      rcases (Nat.succ_le_of_lt (of_decide_eq_true h)).lt_or_eq with hless | hgreatest
      · exact isSome_float?_ofDigits _ (Decimal.proper_shortest hpos _)
          (Decimal.value_shortest_le hpos hless _)
      · have heq : x.unsignedBits = infiniteMagnitude - 1 := by omega
        rw [heq]
        exact isSome_float?_greatest _
  obtain ⟨y, hy⟩ := Option.isSome_iff_exists.1 hfloat
  have hwhole : (ofBinary64 x).isWhole = false := isWhole_ofDigits _ (proper_digits x)
  refine ⟨y, ?_⟩
  rw [value?, hwhole, hy]
  rfl

end BuildDrift.Json.Numeral
