import BuildDrift.Text.Hex
import Mathlib.Data.List.Defs

/-!
# Hexadecimal text is read back

The digits that are written for a number are read as that number, with or without zeros in front of
them.

## Main results

* `Hex.read?_digits`: the digits of a number are read back.
* `Hex.read?_leftpad`, `Hex.read?_padded`: so are its digits filled up with zeros, in either case.
-/

namespace BuildDrift.Hex

/-- Each of the sixteen digits is read as its own value. -/
theorem digitValue?_digitChar {d : Nat} (hd : d < 16) : digitValue? d.digitChar = some d := by
  have hall : ∀ d < 16, digitValue? d.digitChar = some d := by decide
  exact hall d hd

/-- The digits that are written are the sixteen digits in lower case. -/
theorem mem_digits {n : Nat} {c : Char} (hc : c ∈ digits n) : ∃ d < 16, c = d.digitChar := by
  induction n using Nat.strongRecOn with
  | ind n ih =>
    rw [digits, Nat.toDigits_eq_if (by decide)] at hc
    split at hc
    · next hlt => exact ⟨n, hlt, List.mem_singleton.1 hc⟩
    · next hle =>
      rcases List.mem_append.1 hc with hquotient | hlast
      · exact ih (n / 16) (Nat.div_lt_self (by omega) (by decide)) hquotient
      · exact ⟨n % 16, Nat.mod_lt n (by decide), List.mem_singleton.1 hlast⟩

/-- Digits behind others are read on from the value of those. -/
theorem readFrom?_append (n : Nat) (cs ds : List Char) :
    readFrom? n (cs ++ ds) = (readFrom? n cs).bind fun m => readFrom? m ds := by
  induction cs generalizing n with
  | nil => rfl
  | cons c cs ih => cases hc : digitValue? c <;> simp [readFrom?, hc, ih]

/-- The last digit of a number is its rest by sixteen, the others are the digits of the quotient. -/
theorem readFrom?_digits (n : Nat) : readFrom? 0 (digits n) = some n := by
  induction n using Nat.strongRecOn with
  | ind n ih =>
    rw [digits, Nat.toDigits_eq_if (by decide)]
    split
    · next hlt => simp [readFrom?, digitValue?_digitChar hlt]
    · next hle =>
      have hquotient : readFrom? 0 (Nat.toDigits 16 (n / 16)) = some (n / 16) :=
        ih (n / 16) (Nat.div_lt_self (by omega) (by decide))
      have hlast : digitValue? (n % 16).digitChar = some (n % 16) :=
        digitValue?_digitChar (Nat.mod_lt n (by decide))
      simp [readFrom?_append, hquotient, readFrom?, hlast, Nat.div_add_mod]

theorem read?_of_ne_nil {cs : List Char} (hcs : cs ≠ []) : read? cs = readFrom? 0 cs := by
  cases cs with
  | nil => exact absurd rfl hcs
  | cons c cs => rfl

/-- The digits of a number are read back. -/
theorem read?_digits (n : Nat) : read? (digits n) = some n := by
  have hne : digits n ≠ [] := Nat.toDigits_ne_nil
  rw [read?_of_ne_nil hne, readFrom?_digits]

/-- Zeros in front of digits are passed over. -/
theorem readFrom?_zeros (k : Nat) : readFrom? 0 (List.replicate k '0') = some 0 := by
  have hzero : digitValue? '0' = some 0 := by decide
  induction k with
  | zero => rfl
  | succ k ih => rw [List.replicate_succ, readFrom?, hzero, Option.bind_some, ih]

/-- The digits of a number filled up with zeros are read back. -/
theorem read?_leftpad (width n : Nat) : read? ((digits n).leftpad width '0') = some n := by
  have hne : (digits n).leftpad width '0' ≠ [] :=
    List.append_ne_nil_of_right_ne_nil _ Nat.toDigits_ne_nil
  rw [read?_of_ne_nil hne, List.leftpad, readFrom?_append, readFrom?_zeros, Option.bind_some,
    readFrom?_digits]

/-- Digits are read alike in either case. -/
theorem readFrom?_toUpper {cs : List Char} (hcs : ∀ c ∈ cs, ∃ d < 16, c = Nat.digitChar d)
    (n : Nat) : readFrom? n (cs.map Char.toUpper) = readFrom? n cs := by
  have hupper : ∀ d < 16, digitValue? d.digitChar.toUpper = some d := by decide
  induction cs generalizing n with
  | nil => rfl
  | cons c cs ih =>
    obtain ⟨⟨d, hd, rfl⟩, hrest⟩ := List.forall_mem_cons.1 hcs
    rw [List.map_cons, readFrom?, readFrom?, hupper d hd, digitValue?_digitChar hd,
      Option.bind_some, Option.bind_some, ih hrest]

/-- The digits of a number in upper case, filled up with zeros, are read back. -/
theorem read?_padded (width n : Nat) : read? (padded width n).toList = some n := by
  have hdigits : digits n ≠ [] := Nat.toDigits_ne_nil
  have hne : ((digits n).map Char.toUpper).leftpad width '0' ≠ [] :=
    List.append_ne_nil_of_right_ne_nil _ (by simpa using hdigits)
  rw [padded, String.toList_ofList, read?_of_ne_nil hne, List.leftpad, readFrom?_append,
    readFrom?_zeros, Option.bind_some, readFrom?_toUpper fun c hc => mem_digits hc,
    readFrom?_digits]

/-- A number of 16 bits fills exactly four places. -/
theorem length_leftpad_four {n : Nat} (hn : n < 0x10000) :
    ((digits n).leftpad 4 '0').length = 4 := by
  rw [List.length_leftpad]
  exact Nat.max_eq_left ((Nat.length_toDigits_le_iff (by decide) (by decide)).2 hn)

end BuildDrift.Hex
