import BuildDrift.Number.Decimal
import Mathlib.Data.List.DropRight

/-!
# Digits that are written

The digits of a decimal number are those of a whole number without its trailing zeros. There is at
least one, and the first is not zero: no multiple zero of a step lies among the values that round to
a positive number.

## Main definitions

* `Decimal.Digits.Proper`: digits with a first one that is not zero, or a single zero.

## Main results

* `Decimal.head?_toDigits`: the digits of a number do not begin with zero.
* `Decimal.shortest_eq`: the shortest digits are those of a point of a decimal grid, which lies in
  the interval of the number (`Decimal.Interval.contains_of_gridPoint?`).
* `Decimal.proper_shortest`: the shortest digits of a number are proper.
-/

namespace BuildDrift.Decimal

/-- The digits of a positive number do not begin with zero. -/
theorem head?_toDigits {n : ℕ} (hn : 0 < n) : (Nat.toDigits 10 n).head? ≠ some '0' := by
  induction n using Nat.strongRecOn with
  | ind n ih =>
    rw [Nat.toDigits_eq_if (by decide)]
    split_ifs with hlt
    · simpa using Nat.ne_of_gt hn
    · have hdiv : 0 < n / 10 := Nat.div_pos (Nat.not_lt.1 hlt) (by decide)
      have hne : (Nat.toDigits 10 (n / 10)).head? ≠ some '0' :=
        ih (n / 10) (Nat.div_lt_self hn (by decide)) hdiv
      rwa [List.head?_append_of_ne_nil _ Nat.toDigits_ne_nil]

/-- There are digits, and the first is not zero unless it is the only one and stands in front of the
point. -/
structure Digits.Proper (d : Digits) : Prop where
  ne_nil : d.digits ≠ []
  isDigit : ∀ c ∈ d.digits, c.isDigit
  zero : d.digits.head? = some '0' → d.digits = ['0'] ∧ d.exponent = 0

theorem Digits.proper_zero : Digits.Proper ⟨['0'], 0⟩ :=
  ⟨by simp, by simp, fun _ => ⟨rfl, rfl⟩⟩

/-- Only trailing zeros of a positive number are left out. -/
theorem Digits.digits_ofScaled {n : ℕ} (hn : 0 < n) (g : Int) : (Digits.ofScaled n g).digits ≠ [] ∧
    (Digits.ofScaled n g).digits = (Nat.toDigits 10 n).rdropWhile (· == '0') := by
  have hhead := head?_toDigits hn
  have hne : (Nat.toDigits 10 n).rdropWhile (· == '0') ≠ [] := by
    rw [ne_eq, List.rdropWhile_eq_nil_iff]
    intro hzeros
    obtain ⟨c, digits, hdigits⟩ := List.exists_cons_of_ne_nil (@Nat.toDigits_ne_nil n 10)
    have hc : c = '0' := by simpa using hzeros c (hdigits ▸ List.mem_cons_self)
    exact hhead (by rw [hdigits, hc, List.head?_cons])
  have heq : (Digits.ofScaled n g).digits = (Nat.toDigits 10 n).rdropWhile (· == '0') :=
    if_neg (by simpa using hne)
  exact ⟨heq ▸ hne, heq⟩

/-- The digits of a positive number without its trailing zeros are proper. -/
theorem Digits.proper_ofScaled {n : ℕ} (hn : 0 < n) (g : Int) : (Digits.ofScaled n g).Proper := by
  have hhead := head?_toDigits hn
  obtain ⟨hne, heq⟩ := digits_ofScaled hn g
  obtain ⟨zeros, hzeros⟩ := List.rdropWhile_prefix (· == '0') (Nat.toDigits 10 n)
  rw [← heq] at hzeros
  refine ⟨hne, fun c hc => ?_, fun hzero => ?_⟩
  · refine Nat.isDigit_of_mem_toDigits (b := 10) (n := n) (by decide) (by decide) ?_
    rw [← hzeros]
    exact List.mem_append_left _ hc
  · rw [← hzeros, List.head?_append_of_ne_nil _ hne] at hhead
    exact absurd hzero hhead

/-- The step of a decimal grid, as a numerator and a denominator. -/
def step (g : Int) : ℕ × ℕ :=
  if 0 ≤ g then (Nat.pow 10 g.toNat, 1) else (1, Nat.pow 10 (-g).toNat)

theorem step_snd_pos (g : Int) : 0 < (step g).2 := by
  rw [step]
  split_ifs
  · exact Nat.one_pos
  · exact Nat.pow_pos (by decide)

namespace Interval

/-- The value zero does not round to a positive number. -/
theorem contains_ofMagnitude_zero {magnitude den : ℕ} (hm : 0 < magnitude) (hden : 0 < den) :
    (ofMagnitude magnitude).contains 0 den = false := by
  have hsignificand : 0 < Binary64.significandOf magnitude := by
    rw [Binary64.significandOf]
    split_ifs
    · exact hm
    · exact Nat.add_pos_right _ (Nat.pow_pos (by decide))
  have hunit (e : Int) : 0 < (Binary64.scaled 1 e).1 := by
    rw [Binary64.scaled]
    split_ifs
    · exact Nat.mul_pos Nat.one_pos (Nat.pow_pos (by decide))
    · exact Nat.one_pos
  have hlow : 0 < (ofMagnitude magnitude).low := by
    refine Nat.mul_pos ?_ (hunit _)
    split_ifs <;> omega
  have hproduct : 0 < (ofMagnitude magnitude).low * den := Nat.mul_pos hlow hden
  rw [contains, Nat.zero_mul]
  split_ifs
  · simp [Nat.not_le.2 hproduct]
  · simp

/-- A grid point that is found lies in the interval. -/
theorem contains_of_gridPoint? {i : Interval} {tieUp : Bool} {g : Int} {q : ℕ}
    (h : i.gridPoint? tieUp g = some q) : i.contains (q * (step g).1) (step g).2 = true := by
  rw [gridPoint?, ← step] at h
  dsimp only at h
  split_ifs at h with hboth hless hmore htie hbelow habove
  all_goals rw [Option.some.injEq] at h
  · rw [Bool.and_eq_true] at hboth
    exact h ▸ hboth.1
  · rw [Bool.and_eq_true] at hboth
    exact h ▸ hboth.2
  · rw [Bool.and_eq_true] at hboth
    exact h ▸ hboth.2
  · rw [Bool.and_eq_true] at hboth
    exact h ▸ hboth.1
  · exact h ▸ hbelow
  · exact h ▸ habove

/-- A grid point that is found is not zero. -/
theorem pos_of_gridPoint? {magnitude q : ℕ} (hm : 0 < magnitude) {tieUp : Bool} {g : Int}
    (h : (ofMagnitude magnitude).gridPoint? tieUp g = some q) : 0 < q := by
  have hcontains := contains_of_gridPoint? h
  rcases Nat.eq_zero_or_pos q with rfl | hpos
  · rw [Nat.zero_mul, contains_ofMagnitude_zero hm (step_snd_pos g)] at hcontains
    exact absurd hcontains (by simp)
  · exact hpos

end Interval

/-- The shortest digits are those of a grid point that is found, if there is one. -/
theorem shortest_eq (tieUp : Bool) (magnitude : ℕ) : shortest tieUp magnitude = ⟨['0'], 0⟩ ∨
    ∃ q g, (Interval.ofMagnitude magnitude).gridPoint? tieUp g = some q ∧
      shortest tieUp magnitude = Digits.ofScaled q g := by
  rw [shortest]
  cases hfound : (List.range 17).findSome? fun n : ℕ =>
      ((Interval.ofMagnitude magnitude).gridPoint? tieUp
        (leadingExponent (Interval.ofMagnitude magnitude).value
          (Interval.ofMagnitude magnitude).den - n)).map fun q => Digits.ofScaled q
            (leadingExponent (Interval.ofMagnitude magnitude).value
              (Interval.ofMagnitude magnitude).den - n) with
  | none => exact .inl rfl
  | some digits =>
    obtain ⟨n, -, hn⟩ := List.exists_of_findSome?_eq_some hfound
    obtain ⟨q, hq, rfl⟩ := Option.map_eq_some_iff.1 hn
    exact .inr ⟨q, _, hq, rfl⟩

/-- The shortest digits of a positive number are proper. -/
theorem proper_shortest {magnitude : ℕ} (hm : 0 < magnitude) (tieUp : Bool) :
    (shortest tieUp magnitude).Proper := by
  rcases shortest_eq tieUp magnitude with h | ⟨q, g, hq, h⟩
  · exact h ▸ Digits.proper_zero
  · exact h ▸ Digits.proper_ofScaled (Interval.pos_of_gridPoint? hm hq) g

end BuildDrift.Decimal
