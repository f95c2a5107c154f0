import BuildDrift.Model.Modifiers
import BuildDrift.Proofs.Text.Blank
import BuildDrift.Proofs.Text.Hex
import Mathlib.Data.List.Forall2
import Mathlib.Data.Nat.Bitwise

/-!
# Modifiers are read back

A word of modifier bits is written as words joined by bars: the names of its bits, and one number
for the bits without a name. The parts between the bars are those words with a blank at either end,
each word stands for the bits that it was written for, and together these are all the bits of the
word, because a name stands for a single bit.

## Main definitions

* `Modifiers.Names.Proper`: names of different single bits, in capital letters.

## Main results

* `Modifiers.union_flags`: the bits of the flags make up the word.
* `Modifiers.parse_render`: a word of modifiers is read back.
-/

namespace BuildDrift.Modifiers

/-! ### Parts between bars -/

/-- A flag as it stands between bars: characters that are neither blanks nor bars. -/
structure IsFlag (cs : List Char) : Prop where
  ne_nil : cs ≠ []
  not_blank : ∀ c ∈ cs, Blank.isBlank c = false
  bar_notMem : '|' ∉ cs

section Parts

variable {cs rest : List Char}

theorem parts_ne_nil (cs : List Char) : parts cs ≠ [] := by
  cases cs with
  | nil => exact List.cons_ne_nil _ _
  | cons c cs =>
    rw [parts]
    split_ifs
    · exact List.cons_ne_nil _ _
    · cases parts cs <;> exact List.cons_ne_nil _ _

theorem parts_cons {c : Char} (hc : c ≠ '|') (cs : List Char) :
    parts (c :: cs) = (parts cs).modifyHead (c :: ·) := by
  rw [parts, if_neg hc]
  cases h : parts cs with
  | nil => exact absurd h (parts_ne_nil cs)
  | cons first rest => rfl

/-- A text without bars is one part. -/
theorem parts_of_notMem (hcs : '|' ∉ cs) : parts cs = [cs] := by
  induction cs with
  | nil => rfl
  | cons c cs ih =>
    rw [List.mem_cons, not_or] at hcs
    rw [parts_cons (Ne.symm hcs.1), ih hcs.2]
    rfl

/-- A text up to its first bar is the first part. -/
theorem parts_append (hcs : '|' ∉ cs) : parts (cs ++ '|' :: rest) = cs :: parts rest := by
  induction cs with
  | nil => rfl
  | cons c cs ih =>
    rw [List.mem_cons, not_or] at hcs
    rw [List.cons_append, parts_cons (Ne.symm hcs.1), ih hcs.2]
    rfl

/-- A blank in front of a text makes no difference to its parts without the blanks around them. -/
theorem map_trim_parts_space (cs : List Char) :
    (parts (' ' :: cs)).map Blank.trim = (parts cs).map Blank.trim := by
  rw [parts_cons (by decide)]
  cases parts cs with
  | nil => rfl
  | cons first rest =>
    rw [List.modifyHead_cons, List.map_cons, List.map_cons, Blank.trim_cons Blank.isBlank_space]

theorem IsFlag.trim (h : IsFlag cs) : Blank.trim cs = cs := by
  have hnone : ∀ c ∈ ([] : List Char), Blank.isBlank c = true := by simp
  simpa using Blank.trim_append h.not_blank h.ne_nil hnone

/-- The flags are the parts of their text, without the blanks around them. -/
theorem map_trim_parts {flags : List (List Char)} (hne : flags ≠ [])
    (hflags : ∀ cs ∈ flags, IsFlag cs) :
    (parts ([' ', '|', ' '].intercalate flags)).map Blank.trim = flags := by
  induction flags with
  | nil => exact absurd rfl hne
  | cons cs flags ih =>
    have hcs := hflags cs List.mem_cons_self
    cases flags with
    | nil => rw [List.intercalate_singleton, parts_of_notMem hcs.bar_notMem, List.map_singleton,
        hcs.trim]
    | cons next flags =>
      have hbar : '|' ∉ cs ++ [' '] := by
        rw [List.mem_append, List.mem_singleton]
        exact not_or.2 ⟨hcs.bar_notMem, by decide⟩
      have htext : [' ', '|', ' '].intercalate (cs :: next :: flags) =
          (cs ++ [' ']) ++ '|' :: ' ' :: [' ', '|', ' '].intercalate (next :: flags) := by
        rw [List.intercalate_cons_cons]
        simp
      have htrim : Blank.trim (cs ++ [' ']) = cs :=
        Blank.trim_append hcs.not_blank hcs.ne_nil (by simp [Blank.isBlank_space])
      rw [htext, parts_append hbar, List.map_cons, htrim, map_trim_parts_space,
        ih (List.cons_ne_nil _ _) fun cs hmem => hflags cs (List.mem_cons_of_mem _ hmem)]

/-- A text of flags is not blank. -/
theorem isAllBlank_flags {cs : List Char} {flags : List (List Char)} (hcs : IsFlag cs) :
    Blank.isAllBlank ([' ', '|', ' '].intercalate (cs :: flags)) = false := by
  obtain ⟨c, tail, rfl⟩ := List.exists_cons_of_ne_nil hcs.ne_nil
  rw [List.intercalate_cons_cons_left, Blank.isAllBlank, List.all_cons,
    hcs.not_blank c List.mem_cons_self, Bool.false_and]

end Parts

/-! ### Names -/

/-- Names of different single bits, in capital letters. -/
structure Names.Proper (names : Names) : Prop where
  nodup : (names.map Prod.fst).Nodup
  ne_empty : ∀ entry ∈ names, entry.1 ≠ ""
  capital : ∀ entry ∈ names, ∀ c ∈ entry.1.toList, c.isUpper ∨ c = '_'
  single : ∀ entry ∈ names, ∃ k < 32, entry.2.bits.toNat = 2 ^ k

theorem proper_ofType : ofType.Proper :=
  ⟨by decide, by decide, by simp [ofType], by decide⟩

theorem proper_ofMethod : ofMethod.Proper :=
  ⟨by decide, by decide, by simp [ofMethod], by decide⟩

theorem proper_ofField : ofField.Proper :=
  ⟨by decide, by decide, by simp [ofField], by decide⟩

/-! ### Single flags -/

/-- Visible characters in front of the bar make a flag. -/
theorem isFlag_of_visible {cs : List Char} (hne : cs ≠ [])
    (hcs : ∀ c ∈ cs, 0x20 < c.toNat ∧ c.toNat < 0x7C) : IsFlag cs where
  ne_nil := hne
  not_blank c hc := Blank.isBlank_of_visible (hcs c hc).1 (Nat.lt_trans (hcs c hc).2 (by decide))
  bar_notMem hbar := Nat.lt_irrefl _ (hcs '|' hbar).2

theorem toNat_of_capital {c : Char} (hc : c.isUpper ∨ c = '_') :
    0x41 ≤ c.toNat ∧ c.toNat ≤ 0x5F := by
  rcases hc with hupper | rfl
  · have hrange : 0x41 ≤ c.toNat ∧ c.toNat ≤ 0x5A := of_decide_eq_true hupper
    omega
  · decide

theorem toNat_of_mem_digits {n : ℕ} {c : Char} (hc : c ∈ Hex.digits n) :
    0x30 ≤ c.toNat ∧ c.toNat ≤ 0x66 := by
  obtain ⟨d, hd, rfl⟩ := Hex.mem_digits hc
  have hall : ∀ d < 16, 0x30 ≤ d.digitChar.toNat ∧ d.digitChar.toNat ≤ 0x66 := by decide
  exact hall d hd

section Flag

variable {names : Names} {entry : String × Modifiers}

theorem Names.find?_of_mem (hnodup : (names.map Prod.fst).Nodup) (hentry : entry ∈ names) :
    names.find? entry.1 = some entry.2 := by
  induction names with
  | nil => simp at hentry
  | cons first names ih =>
    rw [List.map_cons, List.nodup_cons] at hnodup
    rcases List.mem_cons.1 hentry with rfl | hrest
    · simp [find?]
    · have hne : first.1 ≠ entry.1 := fun h => hnodup.1 (h ▸ List.mem_map_of_mem hrest)
      have hfind := ih hnodup.2 hrest
      rw [find?] at hfind ⊢
      rwa [List.find?_cons_of_neg (by simpa using hne)]

theorem Names.Proper.isFlag (h : names.Proper) (hentry : entry ∈ names) :
    IsFlag entry.1.toList := by
  refine isFlag_of_visible (fun hnil => h.ne_empty entry hentry (String.toList_eq_nil_iff.1 hnil))
    fun c hc => ?_
  have hrange := toNat_of_capital (h.capital entry hentry c hc)
  omega

/-- A name is read as the bit that it stands for. -/
theorem Names.Proper.flag_name (h : names.Proper) (hentry : entry ∈ names) :
    flag names entry.1.toList = .ok entry.2 := by
  have hfind := Names.find?_of_mem h.nodup hentry
  rw [flag.eq_3, String.ofList_toList, hfind]
  · exact (h.isFlag hentry).ne_nil
  -- A name is not taken for a number, since no capital letter is a zero.
  · intro digits hzero
    have hcapital := h.capital entry hentry '0' (hzero ▸ List.mem_cons_self)
    exact absurd hcapital (by decide)

theorem toList_number (n : ℕ) : ("0x" ++ Hex.lower n).toList = '0' :: 'x' :: Hex.digits n := by
  have hprefix : "0x".toList = ['0', 'x'] := by decide
  rw [String.toList_append, hprefix, Hex.lower, String.toList_ofList]
  rfl

theorem isFlag_number (n : ℕ) : IsFlag ('0' :: 'x' :: Hex.digits n) := by
  refine isFlag_of_visible (List.cons_ne_nil _ _) fun c hc => ?_
  rcases List.mem_cons.1 hc with rfl | hc
  · decide
  rcases List.mem_cons.1 hc with rfl | hc
  · decide
  have hrange := toNat_of_mem_digits hc
  omega

theorem number?_digits (n : UInt32) : number? (Hex.digits n.toNat) = some ⟨n⟩ := by
  have hlt : n.toNat < UInt32.size := n.toNat_lt
  rw [number?]
  · rw [Hex.read?_digits, Option.bind_some, if_pos hlt, UInt32.ofNat_toNat]
  · intro rest hplus
    have hrange := toNat_of_mem_digits (hplus ▸ List.mem_cons_self)
    exact absurd hrange (by decide)

/-- A number is read as its bits. -/
theorem flag_number (n : UInt32) :
    flag names ('0' :: 'x' :: Hex.digits n.toNat) = .ok ⟨n⟩ := by
  rw [flag, number?_digits]

end Flag

/-! ### The flags of a word -/

section Flags

variable {names : Names}

/-- The bits that the flags of a word stand for. -/
def flagBits (names : Names) (m : Modifiers) : List Modifiers :=
  ((names.filter fun entry => m.has entry.2).map Prod.snd) ++
    (if (m.without names.all).bits = 0 then [] else [m.without names.all])

/-- Every flag of a word is read as its bits. -/
theorem forall₂_flags (h : names.Proper) (m : Modifiers) :
    List.Forall₂ (fun cs n => IsFlag cs ∧ flag names cs = .ok n)
      ((flags names m).map String.toList) (flagBits names m) := by
  rw [List.forall₂_map_left_iff]
  refine List.rel_append ?_ ?_
  · rw [List.forall₂_map_left_iff, List.forall₂_map_right_iff, List.forall₂_same]
    intro entry hentry
    have hmem : entry ∈ names := List.mem_of_mem_filter hentry
    exact ⟨h.isFlag hmem, h.flag_name hmem⟩
  · split_ifs
    · exact .nil
    · have htext := toList_number (m.without names.all).bits.toNat
      exact .cons ⟨htext ▸ isFlag_number _, htext ▸ flag_number _⟩ .nil

theorem and_or (a b c : UInt32) : a &&& (b ||| c) = (a &&& b) ||| (a &&& c) :=
  UInt32.toBitVec_inj.1 BitVec.and_or_distrib_left

/-- A single bit is in a word or has no bit in common with it. -/
theorem and_single {n : Modifiers} {k : ℕ} (hn : n.bits.toNat = 2 ^ k) (m : Modifiers) :
    m.bits &&& n.bits = if m.has n then n.bits else 0 := by
  have hand : (m.bits &&& n.bits).toNat = (m.bits.toNat.testBit k).toNat * 2 ^ k := by
    rw [UInt32.toNat_and, hn, Nat.and_two_pow]
  split_ifs with hhas
  · exact of_decide_eq_true hhas
  · cases hbit : m.bits.toNat.testBit k with
    | false =>
      rw [hbit, Bool.toNat_false, Nat.zero_mul] at hand
      exact UInt32.toNat_inj.1 hand
    | true =>
      rw [hbit, Bool.toNat_true, Nat.one_mul, ← hn] at hand
      exact absurd (decide_eq_true (UInt32.toNat_inj.1 hand)) hhas

/-- The bits of a word that have names are those of the names that are in it. -/
theorem and_foldl_union (hsingle : ∀ entry ∈ names, ∃ k < 32, entry.2.bits.toNat = 2 ^ k)
    (m n : Modifiers) :
    (⟨m.bits &&& (names.foldl (fun n entry => n.union entry.2) n).bits⟩ : Modifiers) =
      ((names.filter fun entry => m.has entry.2).map Prod.snd).foldl union
        ⟨m.bits &&& n.bits⟩ := by
  -- What the names in front have gathered is general, since each name adds its bit to it.
  induction names generalizing n with
  | nil => rfl
  | cons entry names ih =>
    obtain ⟨k, -, hk⟩ := hsingle entry List.mem_cons_self
    have hrest := ih (fun entry hentry => hsingle entry (List.mem_cons_of_mem _ hentry))
      (n.union entry.2)
    have hunion : m.bits &&& (n.union entry.2).bits =
        (m.bits &&& n.bits) ||| (if m.has entry.2 then entry.2.bits else 0) := by
      rw [← and_single hk, union, and_or]
    rw [List.foldl_cons, hrest, hunion]
    cases hhas : m.has entry.2 with
    | true =>
      simp only [List.filter_cons, hhas, if_true, List.map_cons, List.foldl_cons]
      rfl
    | false =>
      simp only [List.filter_cons, hhas, Bool.false_eq_true, if_false, UInt32.or_zero]

/-- The bits of the flags make up the word. -/
theorem union_flags (h : names.Proper) (m : Modifiers) :
    (flagBits names m).foldl union empty = m := by
  have hnamed := and_foldl_union h.single m empty
  have hzero : m.bits &&& empty.bits = 0 := UInt32.and_zero
  rw [hzero] at hnamed
  have hall : (m.bits &&& names.all.bits) ||| (m.without names.all).bits = m.bits := by
    rw [without, ← and_or, UInt32.or_not_self, UInt32.and_neg_one]
  have hrest : (if (m.without names.all).bits = 0 then [] else [m.without names.all]).foldl union
      ⟨m.bits &&& names.all.bits⟩ = m := by
    split_ifs with hnone
    · rw [hnone, UInt32.or_zero] at hall
      rw [List.foldl_nil, hall]
    · rw [List.foldl_cons, List.foldl_nil, union, hall]
  rw [flagBits, List.foldl_append, empty, ← hnamed]
  exact hrest

theorem foldlM_flag {texts : List (List Char)} {bits : List Modifiers}
    (h : List.Forall₂ (fun cs n => flag names cs = .ok n) texts bits) (m : Modifiers) :
    texts.foldlM (fun m cs => (flag names cs).map m.union) m = .ok (bits.foldl union m) := by
  induction h generalizing m with
  | nil => rfl
  | cons hflag _ ih =>
    rw [List.foldlM_cons, hflag]
    exact ih _

/-- A text of flags is read as the union of their bits. -/
theorem parse_flags {text : String} {texts : List (List Char)} {bits : List Modifiers}
    (htext : text.toList = [' ', '|', ' '].intercalate texts)
    (h : List.Forall₂ (fun cs n => IsFlag cs ∧ flag names cs = .ok n) texts bits) :
    parse names text = .ok (bits.foldl union empty) := by
  obtain ⟨hflags, hread⟩ := (List.forall₂_and_left ..).1 h
  cases texts with
  | nil =>
    cases hread
    rw [parse, htext]
    rfl
  | cons cs texts =>
    have hparts := map_trim_parts (List.cons_ne_nil cs texts) hflags
    rw [parse, htext, isAllBlank_flags (hflags cs List.mem_cons_self),
      if_neg Bool.false_ne_true, ← foldlM_flag hread, ← hparts, List.foldlM_map, hparts]

/-- A word of modifiers is read back. -/
theorem parse_render (h : names.Proper) (m : Modifiers) : parse names (render names m) = .ok m := by
  have hbar : " | ".toList = [' ', '|', ' '] := by decide
  have htext : (render names m).toList =
      [' ', '|', ' '].intercalate ((flags names m).map String.toList) := by
    rw [render, String.toList_intercalate, hbar]
  rw [parse_flags htext (forall₂_flags h m), union_flags h]

end Flags

end BuildDrift.Modifiers
