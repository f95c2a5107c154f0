import BuildDrift.Proofs.Number.Digits
import BuildDrift.Proofs.Number.Rounding

/-!
# What shortest digits stand for

The shortest digits of a number stand for a value that rounds to the number, so they are not beyond
the end of its interval. For every number but the greatest one that end is less than the greatest
number by more than its distance to the next one.

## Main definitions

* `Decimal.Digits.value`: the value of digits.
* `Decimal.limit`: what the digits of all numbers but the greatest do not exceed.

## Main results

* `Decimal.Digits.value_ofScaled`: leaving out trailing zeros does not change the value.
* `Decimal.value_shortest_le`: the shortest digits do not exceed the limit.
-/

namespace BuildDrift.Decimal

open Binary64

/-- The value of digits. -/
def Digits.value (d : Digits) : ℚ :=
  Nat.ofDigitChars 10 d.digits 0 * 10 ^ (d.exponent - ((d.digits.length : ℤ) - 1))

theorem Digits.value_zero : value ⟨['0'], 0⟩ = 0 := by
  rw [value]
  norm_num [Nat.ofDigitChars]

/-- Leaving out trailing zeros does not change the value. -/
theorem Digits.value_ofScaled {q : ℕ} (hq : 0 < q) (g : ℤ) : (ofScaled q g).value = q * 10 ^ g := by
  set all := Nat.toDigits 10 q with hall
  set zeros := all.rtakeWhile (· == '0') with hzeros
  have hsplit : (ofScaled q g).digits ++ List.replicate zeros.length '0' = all := by
    have hreplicate : zeros = List.replicate zeros.length '0' :=
      List.eq_replicate_of_mem fun c hc => by simpa using List.mem_rtakeWhile_imp hc
    rw [(digits_ofScaled hq g).2, ← hreplicate, hzeros, List.rdropWhile_append_rtakeWhile]
  have hnumber : Nat.ofDigitChars 10 (ofScaled q g).digits 0 * 10 ^ zeros.length = q := by
    have hread : Nat.ofDigitChars 10 all 0 = q := Nat.ofDigitChars_ten_toDigits
    rw [← hsplit, Nat.ofDigitChars_append, Nat.ofDigitChars_replicate_zero] at hread
    rw [Nat.mul_comm, hread]
  have hlength : (ofScaled q g).exponent - (((ofScaled q g).digits.length : ℤ) - 1) =
      g + zeros.length := by
    have hsum := congrArg List.length hsplit
    have hexponent : (ofScaled q g).exponent = g + all.length - 1 := rfl
    rw [List.length_append, List.length_replicate] at hsum
    omega
  have hcast : (Nat.ofDigitChars 10 (ofScaled q g).digits 0 : ℚ) * 10 ^ zeros.length = q := by
    exact_mod_cast hnumber
  rw [value, hlength, zpow_add₀ (by norm_num), zpow_natCast, ← hcast]
  ring

theorem quotient_step (g : ℤ) : quotient (step g) = 10 ^ g := by
  rw [step]
  split_ifs with hg
  · obtain ⟨n, rfl⟩ := Int.eq_ofNat_of_zero_le hg
    simp [quotient]
  · obtain ⟨n, hn⟩ := Int.eq_ofNat_of_zero_le (show 0 ≤ -g by omega)
    obtain rfl : g = -n := by omega
    simp [quotient]

namespace Interval

/-- What rounds to a number does not exceed the middle between it and the next one. -/
theorem le_of_contains {k num den : ℕ} (hden : 0 < den)
    (h : (ofMagnitude k).contains num den = true) :
    (num : ℚ) / den ≤ (2 * significandOf k + 1) * 2 ^ (exponentOf k - 1) := by
  set p := scaled 1 (exponentOf k - 2) with hp
  have hle : num * p.2 ≤ (4 * significandOf k + 2) * p.1 * den := by
    rw [contains] at h
    split_ifs at h
    · exact of_decide_eq_true (Bool.and_eq_true _ _ ▸ h).2
    · exact (of_decide_eq_true (Bool.and_eq_true _ _ ▸ h).2 : _ < _).le
  have hpos : 0 < p.2 := scaled_snd_pos 1 (exponentOf k - 2)
  have hvalue : (p.1 : ℚ) / p.2 = 2 ^ (exponentOf k - 2) := by
    rw [← quotient, hp, quotient_scaled, Nat.cast_one, one_mul]
  have hpow : (2 : ℚ) ^ (exponentOf k - 1) = 2 * 2 ^ (exponentOf k - 2) := by
    rw [← zpow_one_add₀ (by norm_num)]
    congr 1
    ring
  have hquotient : (num : ℚ) / den ≤ (4 * significandOf k + 2) * (p.1 / p.2) := by
    rw [← mul_div_assoc, div_le_div_iff₀ (by exact_mod_cast hden) (by exact_mod_cast hpos)]
    exact_mod_cast hle
  rw [hvalue] at hquotient
  rw [hpow]
  linarith

end Interval

/-- The whole number `m · 2 ^ n`. -/
def binary (m n : ℕ) : ℕ :=
  m * Nat.pow 2 n

theorem cast_binary (m n : ℕ) : (binary m n : ℚ) = m * 2 ^ (n : ℤ) := by
  rw [binary, Nat.cast_mul, Nat.pow_eq, Nat.cast_pow, Nat.cast_ofNat, zpow_natCast]

/-- What the digits of all numbers but the greatest do not exceed. -/
def limit : ℕ :=
  binary 18014398509481981 970

/-- The middles between the numbers before the greatest one are at most the limit. -/
theorem middle_le_limit {k : ℕ} (hk : k + 1 < infiniteMagnitude) :
    (2 * (significandOf k : ℚ) + 1) * 2 ^ (exponentOf k - 1) ≤ limit := by
  have hpattern := pattern_eq k
  have hlt := significandOf_lt k
  have hinfinite : infiniteMagnitude = 2047 * 2 ^ 52 := rfl
  have hbound {n : ℕ} {e : ℤ} (hn : significandOf k ≤ n) (he : exponentOf k - 1 ≤ e) :
      (2 * (significandOf k : ℚ) + 1) * 2 ^ (exponentOf k - 1) ≤ (2 * n + 1) * 2 ^ e := by
    have hcast : (significandOf k : ℚ) ≤ n := by exact_mod_cast hn
    have hpow : (2 : ℚ) ^ (exponentOf k - 1) ≤ 2 ^ e := zpow_le_zpow_right₀ (by norm_num) he
    gcongr
  rw [limit, cast_binary]
  -- Either the exponent is less than the greatest, or the significand is.
  rcases le_or_gt (exponentOf k) 970 with he | he
  · refine (hbound (n := 9007199254740991) (e := 969) (by omega) (by omega)).trans ?_
    have hpos : (0 : ℚ) < 2 ^ (969 : ℤ) := by positivity
    rw [show ((970 : ℕ) : ℤ) = 1 + 969 from rfl, zpow_one_add₀ two_ne_zero]
    generalize (2 : ℚ) ^ (969 : ℤ) = x at hpos ⊢
    push_cast
    linarith
  · have hfull := le_significandOf (k := k) (by omega)
    refine (hbound (n := 9007199254740990) (e := 970) (by omega) (by omega)).trans ?_
    have hpos : (0 : ℚ) < 2 ^ (970 : ℤ) := by positivity
    rw [show ((970 : ℕ) : ℤ) = 970 from rfl]
    generalize (2 : ℚ) ^ (970 : ℤ) = x at hpos ⊢
    push_cast
    linarith

/-- The shortest digits of all numbers but the greatest do not exceed the limit. -/
theorem value_shortest_le {k : ℕ} (hpos : 0 < k) (hk : k + 1 < infiniteMagnitude) (tieUp : Bool) :
    (shortest tieUp k).value ≤ limit := by
  rcases shortest_eq tieUp k with h | ⟨q, g, hq, h⟩
  · rw [h, Digits.value_zero]
    exact Nat.cast_nonneg _
  · have hcontains := Interval.contains_of_gridPoint? hq
    have hle := Interval.le_of_contains (step_snd_pos g) hcontains
    rw [h, Digits.value_ofScaled (Interval.pos_of_gridPoint? hpos hq), ← quotient_step, quotient,
      ← mul_div_assoc]
    push_cast at hle
    exact hle.trans (middle_le_limit hk)

end BuildDrift.Decimal
