import BuildDrift.Number.Binary64
import Mathlib.Algebra.Order.Field.Power
import Mathlib.Data.Rat.Cast.Order
import Mathlib.Tactic.FieldSimp
import Mathlib.Tactic.Linarith
import Mathlib.Tactic.Positivity
import Mathlib.Tactic.Ring

/-!
# Rounding is monotone

A finite pattern has a value, its significand times a power of two, and patterns are in the order of
their values. A quotient is rounded to the pattern nearest to it: the exponent is the one for which
the significand of the quotient has 53 bits, unless that is below the least exponent, and the
significand is rounded half to even. A greater quotient is never rounded to a smaller pattern.

## Main definitions

* `Binary64.quotient`: a numerator and a denominator as a rational number.
* `Binary64.value`: the value of a pattern.
* `Binary64.IsExponent`: the exponent that belongs to a quotient.

## Main results

* `Binary64.value_le_value`: patterns are in the order of their values.
* `Binary64.isExponent_lastBitExponent`: the exponent that is computed belongs to the quotient.
* `Binary64.roundHalfEven_le_roundHalfEven`, `Binary64.magnitude_le_magnitude`: rounding is
  monotone.
-/

namespace BuildDrift.Binary64

/-! ### Values -/

/-- A numerator and a denominator as a rational number. -/
def quotient (p : ℕ × ℕ) : ℚ :=
  p.1 / p.2

/-- The value of an unsigned pattern. -/
def value (magnitude : ℕ) : ℚ :=
  quotient (ratioOf magnitude)

theorem scaled_snd_pos (m : ℕ) (e : ℤ) : 0 < (scaled m e).2 := by
  rw [scaled]
  split_ifs
  · exact Nat.one_pos
  · exact Nat.pow_pos (by decide)

theorem quotient_scaled (m : ℕ) (e : ℤ) : quotient (scaled m e) = m * 2 ^ e := by
  rw [scaled]
  split_ifs with he
  · obtain ⟨n, rfl⟩ := Int.eq_ofNat_of_zero_le he
    simp [quotient]
  · obtain ⟨n, hn⟩ := Int.eq_ofNat_of_zero_le (show 0 ≤ -e by omega)
    obtain rfl : e = -n := by omega
    simp [quotient, div_eq_mul_inv]

theorem value_eq (k : ℕ) : value k = significandOf k * 2 ^ exponentOf k :=
  quotient_scaled _ _

/-- A pattern is its significand, counted on from the least pattern of its exponent. -/
theorem pattern_eq (k : ℕ) : (k : ℤ) = (exponentOf k + 1074) * 2 ^ 52 + significandOf k := by
  have hdiv := Nat.div_add_mod k (2 ^ 52)
  have hmod := Nat.mod_lt k (show 0 < 2 ^ 52 by decide)
  simp only [exponentOf, significandOf, Nat.pow_eq]
  split_ifs with hk
  · have hzero : k / 2 ^ 52 = 0 := Nat.div_eq_of_lt hk
    omega
  · have hone : 1 ≤ k / 2 ^ 52 := (Nat.one_le_div_iff (by decide)).2 (Nat.not_lt.1 hk)
    rw [Nat.max_eq_left hone]
    omega

theorem significandOf_lt (k : ℕ) : significandOf k < 2 ^ 53 := by
  have hmod := Nat.mod_lt k (show 0 < 2 ^ 52 by decide)
  simp only [significandOf, Nat.pow_eq]
  split_ifs <;> omega

theorem le_significandOf {k : ℕ} (h : -1074 < exponentOf k) : 2 ^ 52 ≤ significandOf k := by
  have hdiv := Nat.div_add_mod k (2 ^ 52)
  simp only [exponentOf, significandOf, Nat.pow_eq] at h ⊢
  split_ifs with hk
  · have hzero : k / 2 ^ 52 = 0 := Nat.div_eq_of_lt hk
    omega
  · omega

theorem exponentOf_le_exponentOf {k l : ℕ} (h : k ≤ l) : exponentOf k ≤ exponentOf l := by
  have hdiv : k / Nat.pow 2 52 ≤ l / Nat.pow 2 52 := Nat.div_le_div_right h
  simp only [exponentOf]
  omega

/-- Significands of at most 53 bits have smaller values than those of 53 bits at a greater
exponent. -/
theorem mul_two_zpow_le {m n : ℕ} {d e : ℤ} (hm : m ≤ 2 ^ 53) (hn : 2 ^ 52 ≤ n) (h : d < e) :
    (m : ℚ) * 2 ^ d ≤ n * 2 ^ e := by
  have hm' : (m : ℚ) ≤ 2 ^ 53 := by exact_mod_cast hm
  have hn' : (2 : ℚ) ^ 52 ≤ n := by exact_mod_cast hn
  have hpow : (2 : ℚ) ^ (d + 1) ≤ 2 ^ e := zpow_le_zpow_right₀ (by norm_num) h
  calc (m : ℚ) * 2 ^ d ≤ 2 ^ 53 * 2 ^ d := by gcongr
    _ = 2 ^ 52 * 2 ^ (d + 1) := by rw [zpow_add_one₀ (by norm_num)]; ring
    _ ≤ n * 2 ^ e := by gcongr

/-- Patterns are in the order of their values. -/
theorem value_le_value {k l : ℕ} (h : k ≤ l) : value k ≤ value l := by
  rw [value_eq, value_eq]
  rcases (exponentOf_le_exponentOf h).eq_or_lt with he | he
  · have hk := pattern_eq k
    have hl := pattern_eq l
    rw [← he] at hl ⊢
    have hle : (significandOf k : ℚ) ≤ significandOf l := by
      have hnat : significandOf k ≤ significandOf l := by omega
      exact_mod_cast hnat
    gcongr
  · have hleast : -1074 ≤ exponentOf k := by
      have hone : 1 ≤ max (k / Nat.pow 2 52) 1 := Nat.le_max_right _ _
      simp only [exponentOf]
      omega
    exact mul_two_zpow_le (significandOf_lt k).le (le_significandOf (by omega)) he

/-! ### Rounding half to even -/

theorem roundHalfEven_le_succ (n d : ℕ) : roundHalfEven n d ≤ n / d + 1 := by
  rw [roundHalfEven]
  split_ifs <;> omega

theorem div_le_roundHalfEven (n d : ℕ) : n / d ≤ roundHalfEven n d := by
  rw [roundHalfEven]
  split_ifs <;> omega

/-- A greater quotient is not rounded to a smaller number. -/
theorem roundHalfEven_le_roundHalfEven {n d n' d' : ℕ} (hd : 0 < d) (hd' : 0 < d')
    (h : n * d' ≤ n' * d) : roundHalfEven n d ≤ roundHalfEven n' d' := by
  have hfloor : n / d ≤ n' / d' := by
    rw [Nat.le_div_iff_mul_le hd']
    have hle : n / d * d ≤ n := Nat.div_mul_le_self n d
    have hprod : n / d * d' * d ≤ n' * d := by nlinarith
    exact Nat.le_of_mul_le_mul_right hprod hd
  rcases hfloor.lt_or_eq with hlt | heq
  · exact (roundHalfEven_le_succ n d).trans (Nat.le_trans hlt (div_le_roundHalfEven n' d'))
  · -- Both are rounded from the same number, and the remainders are in the order of the quotients.
    have hrest : n % d * d' ≤ n' % d' * d := by
      have hn := Nat.div_add_mod n d
      have hn' := Nat.div_add_mod n' d'
      rw [← heq] at hn'
      nlinarith
    have hhalf (hlow : d ≤ 2 * (n % d)) : d' ≤ 2 * (n' % d') := by nlinarith
    have hmore (hlow : d < 2 * (n % d)) : d' < 2 * (n' % d') := by nlinarith
    simp only [roundHalfEven, ← heq]
    split_ifs <;> omega

theorem roundHalfEven_one (n : ℕ) : roundHalfEven n 1 = n := by
  simp [roundHalfEven, Nat.mod_one]

theorem roundHalfEven_le {n d k : ℕ} (hd : 0 < d) (h : n ≤ k * d) : roundHalfEven n d ≤ k := by
  have hle : roundHalfEven n d ≤ roundHalfEven k 1 :=
    roundHalfEven_le_roundHalfEven hd Nat.one_pos (by rwa [Nat.mul_one])
  rwa [roundHalfEven_one] at hle

theorem le_roundHalfEven {n d k : ℕ} (hd : 0 < d) (h : k * d ≤ n) : k ≤ roundHalfEven n d := by
  have hle : roundHalfEven k 1 ≤ roundHalfEven n d :=
    roundHalfEven_le_roundHalfEven Nat.one_pos hd (by rwa [Nat.mul_one])
  rwa [roundHalfEven_one] at hle

/-! ### The exponent of a quotient -/

/-- A quotient divided by a power of two, as a numerator and a denominator. -/
def shifted (num den : ℕ) (e : ℤ) : ℕ × ℕ :=
  if 0 ≤ e then (num, den * Nat.pow 2 e.toNat) else (num * Nat.pow 2 (-e).toNat, den)

theorem quotient_shifted (num den : ℕ) (e : ℤ) :
    quotient (shifted num den e) = num / den * 2 ^ (-e) := by
  rw [shifted]
  split_ifs with he
  · obtain ⟨n, rfl⟩ := Int.eq_ofNat_of_zero_le he
    simp [quotient, div_eq_mul_inv, mul_assoc, mul_comm]
  · obtain ⟨n, hn⟩ := Int.eq_ofNat_of_zero_le (show 0 ≤ -e by omega)
    rw [hn]
    simp [quotient, div_eq_mul_inv, mul_right_comm]

theorem shifted_snd_pos {num den : ℕ} (hden : 0 < den) (e : ℤ) : 0 < (shifted num den e).2 := by
  rw [shifted]
  split_ifs
  · exact Nat.mul_pos hden (Nat.pow_pos (by decide))
  · exact hden

/-- The exponent of the last bit belongs to a quotient if the significand has at most 53 bits, and
has all of them unless the exponent is the least one. -/
structure IsExponent (x : ℚ) (e : ℤ) : Prop where
  least : -1074 ≤ e
  lt : x < 2 ^ 53 * 2 ^ e
  le : -1074 < e → 2 ^ 52 * 2 ^ e ≤ x

/-- A greater quotient does not have a smaller exponent. -/
theorem IsExponent.le_of_le {x y : ℚ} {d e : ℤ} (hx : IsExponent x d) (hy : IsExponent y e)
    (h : x ≤ y) : d ≤ e := by
  by_contra hlt
  have hlow := hx.le (by have := hy.least; omega)
  have hpow : (2 : ℚ) ^ (e + 1) ≤ 2 ^ d := zpow_le_zpow_right₀ (by norm_num) (by omega)
  rw [zpow_add_one₀ (by norm_num)] at hpow
  have hhigh := hy.lt
  linarith

/-- The quotient is within a factor of two of what the lengths of its parts say. -/
theorem quotient_bounds {num den : ℕ} (hnum : 0 < num) (hden : 0 < den) :
    (2 : ℚ) ^ ((num.log2 : ℤ) - den.log2 - 1) < num / den ∧
      (num : ℚ) / den < 2 ^ ((num.log2 : ℤ) - den.log2 + 1) := by
  have hden' : (0 : ℚ) < den := by exact_mod_cast hden
  have hnumLow : (2 : ℚ) ^ (num.log2 : ℤ) ≤ num := by
    exact_mod_cast Nat.log2_self_le hnum.ne'
  have hnumHigh : (num : ℚ) < 2 ^ ((num.log2 : ℤ) + 1) := by
    exact_mod_cast Nat.lt_log2_self
  have hdenLow : (2 : ℚ) ^ (den.log2 : ℤ) ≤ den := by
    exact_mod_cast Nat.log2_self_le hden.ne'
  have hdenHigh : (den : ℚ) < 2 ^ ((den.log2 : ℤ) + 1) := by
    exact_mod_cast Nat.lt_log2_self
  constructor
  · rw [lt_div_iff₀ hden']
    calc (2 : ℚ) ^ ((num.log2 : ℤ) - den.log2 - 1) * den
        < 2 ^ ((num.log2 : ℤ) - den.log2 - 1) * 2 ^ ((den.log2 : ℤ) + 1) := by gcongr
      _ = 2 ^ (num.log2 : ℤ) := by rw [← zpow_add₀ (by norm_num)]; congr 1; ring
      _ ≤ num := hnumLow
  · rw [div_lt_iff₀ hden']
    calc (num : ℚ) < 2 ^ ((num.log2 : ℤ) + 1) := hnumHigh
      _ = 2 ^ ((num.log2 : ℤ) - den.log2 + 1) * 2 ^ (den.log2 : ℤ) := by
        rw [← zpow_add₀ (by norm_num)]; congr 1; ring
      _ ≤ 2 ^ ((num.log2 : ℤ) - den.log2 + 1) * den := by gcongr

/-- The exponent that is computed belongs to the quotient. -/
theorem isExponent_lastBitExponent {num den : ℕ} (hnum : 0 < num) (hden : 0 < den) :
    IsExponent (num / den) (lastBitExponent num den) := by
  set g : ℤ := (num.log2 : ℤ) - den.log2 - 52 with hg
  have hexponent : lastBitExponent num den = max (-1074)
      (if (shifted num den g).1 / (shifted num den g).2 < Nat.pow 2 52 then g - 1 else g) := rfl
  obtain ⟨hlow, hhigh⟩ := quotient_bounds hnum hden
  have hbits : ((shifted num den g).1 / (shifted num den g).2 < Nat.pow 2 52) ↔
      (num : ℚ) / den < 2 ^ 52 * 2 ^ g := by
    have hpos : (0 : ℚ) < (shifted num den g).2 := by exact_mod_cast shifted_snd_pos hden g
    have hquotient := quotient_shifted num den g
    rw [quotient, div_eq_iff hpos.ne'] at hquotient
    rw [Nat.div_lt_iff_lt_mul (shifted_snd_pos hden g), ← Nat.cast_lt (α := ℚ), hquotient]
    push_cast
    rw [mul_lt_mul_iff_left₀ hpos, zpow_neg, ← div_eq_mul_inv, div_lt_iff₀ (by positivity)]
    norm_num
  have hlow' : (2 : ℚ) ^ 51 * 2 ^ g < num / den := by
    refine lt_of_eq_of_lt ?_ hlow
    rw [hg, ← zpow_natCast, ← zpow_add₀ (by norm_num)]
    congr 1
    push_cast
    ring
  have hhigh' : (num : ℚ) / den < 2 ^ 53 * 2 ^ g := by
    refine lt_of_lt_of_eq hhigh ?_
    rw [hg, ← zpow_natCast, ← zpow_add₀ (by norm_num)]
    congr 1
    push_cast
    ring
  have hpred : (2 : ℚ) ^ (g - 1) * 2 = 2 ^ g := by
    rw [← zpow_add_one₀ (by norm_num), sub_add_cancel]
  rw [hexponent]
  split_ifs with hshort
  · have hlt := hbits.1 hshort
    refine ⟨le_max_left _ _, ?_, fun hleast => ?_⟩
    · have hpow : (2 : ℚ) ^ (g - 1) ≤ 2 ^ max (-1074) (g - 1) :=
        zpow_le_zpow_right₀ (by norm_num) (le_max_right _ _)
      linarith
    · rw [max_eq_right (by omega)]
      linarith
  · have hge := not_lt.1 fun hlt => hshort (hbits.2 hlt)
    refine ⟨le_max_left _ _, ?_, fun hleast => ?_⟩
    · have hpow : (2 : ℚ) ^ g ≤ 2 ^ max (-1074) g :=
        zpow_le_zpow_right₀ (by norm_num) (le_max_right _ _)
      linarith
    · rwa [max_eq_right (by omega)]

/-! ### Rounding to a pattern -/

/-- The significand that a quotient is rounded to at an exponent. -/
def roundedSignificand (num den : ℕ) (e : ℤ) : ℕ :=
  roundHalfEven (shifted num den e).1 (shifted num den e).2

theorem magnitude_eq {num : ℕ} (hnum : 0 < num) (den : ℕ) :
    magnitude num den = min ((lastBitExponent num den + 1074).toNat * Nat.pow 2 52 +
      roundedSignificand num den (lastBitExponent num den)) infiniteMagnitude := by
  rw [magnitude, if_neg hnum.ne', roundedSignificand, shifted]
  dsimp only
  split_ifs <;> rfl

section Significand

variable {num den : ℕ} (hden : 0 < den) {e : ℤ}
include hden

theorem shifted_le_iff {k : ℕ} : (shifted num den e).1 ≤ k * (shifted num den e).2 ↔
    (num : ℚ) / den ≤ k * 2 ^ e := by
  have hpos : (0 : ℚ) < (shifted num den e).2 := by exact_mod_cast shifted_snd_pos hden e
  rw [← Nat.cast_le (α := ℚ), Nat.cast_mul, ← div_le_iff₀ hpos, ← quotient, quotient_shifted,
    zpow_neg, ← div_eq_mul_inv, div_le_iff₀ (by positivity)]

theorem le_shifted_iff {k : ℕ} : k * (shifted num den e).2 ≤ (shifted num den e).1 ↔
    k * 2 ^ e ≤ (num : ℚ) / den := by
  have hpos : (0 : ℚ) < (shifted num den e).2 := by exact_mod_cast shifted_snd_pos hden e
  rw [← Nat.cast_le (α := ℚ), Nat.cast_mul, ← le_div_iff₀ hpos, ← quotient, quotient_shifted,
    zpow_neg, ← div_eq_mul_inv, le_div_iff₀ (by positivity)]

/-- At the exponent that belongs to a quotient the significand has at most 53 bits, or carries. -/
theorem roundedSignificand_le (h : IsExponent (num / den) e) :
    roundedSignificand num den e ≤ 2 ^ 53 := by
  refine roundHalfEven_le (shifted_snd_pos hden e) ((shifted_le_iff hden).2 ?_)
  exact_mod_cast h.lt.le

/-- It has all of them unless the exponent is the least one. -/
theorem le_roundedSignificand (h : IsExponent (num / den) e) (he : -1074 < e) :
    2 ^ 52 ≤ roundedSignificand num den e := by
  refine le_roundHalfEven (shifted_snd_pos hden e) ((le_shifted_iff hden).2 ?_)
  exact_mod_cast h.le he

/-- At one exponent a greater quotient does not have a smaller significand. -/
theorem roundedSignificand_le_roundedSignificand {num' den' : ℕ} (hden' : 0 < den')
    (h : (num : ℚ) / den ≤ num' / den') :
    roundedSignificand num den e ≤ roundedSignificand num' den' e := by
  have hpos : 0 < (shifted num den e).2 := shifted_snd_pos hden e
  have hpos' : 0 < (shifted num' den' e).2 := shifted_snd_pos hden' e
  refine roundHalfEven_le_roundHalfEven hpos hpos' ?_
  have hquotient : quotient (shifted num den e) ≤ quotient (shifted num' den' e) := by
    rw [quotient_shifted, quotient_shifted]
    gcongr
  rw [quotient, quotient, div_le_div_iff₀ (by exact_mod_cast hpos) (by exact_mod_cast hpos')]
    at hquotient
  exact_mod_cast hquotient

end Significand

/-- A greater quotient is not rounded to a smaller pattern. -/
theorem magnitude_le_magnitude {num den num' den' : ℕ} (hden : 0 < den) (hden' : 0 < den')
    (h : (num : ℚ) / den ≤ num' / den') : magnitude num den ≤ magnitude num' den' := by
  rcases Nat.eq_zero_or_pos num with rfl | hnum
  · exact Nat.zero_le _
  have hnum' : 0 < num' := by
    rcases Nat.eq_zero_or_pos num' with rfl | hpos
    · have hdivPos : (0 : ℚ) < num / den := by positivity
      simp only [Nat.cast_zero, zero_div] at h
      exact absurd h hdivPos.not_ge
    · exact hpos
  have hx := isExponent_lastBitExponent hnum hden
  have hy := isExponent_lastBitExponent hnum' hden'
  rw [magnitude_eq hnum, magnitude_eq hnum']
  refine min_le_min_right _ ?_
  rcases (hx.le_of_le hy h).eq_or_lt with he | he
  · rw [← he]
    exact Nat.add_le_add_left (roundedSignificand_le_roundedSignificand hden hden' h) _
  · -- A carry of the smaller one does not reach the least significand of the greater one.
    have hcarry := roundedSignificand_le hden hx
    have hfull := le_roundedSignificand hden' hy (by have := hx.least; omega)
    have hleast := hx.least
    simp only [Nat.pow_eq]
    omega

end BuildDrift.Binary64
