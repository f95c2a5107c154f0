import BuildDrift.Proofs.Instrumentation.Validity
import Mathlib.Order.Interval.Finset.Nat

/-!
# Names of temporaries

A temporary is named by the common beginning and the first number, from the next one on, whose name
is not taken. Numbers have different names, so the numbers that are passed over are no more than the
names in use, and the search ends. Every number below the next one has a name that is in use, and
there are no more variables than slots; so the numbers stay small, however many temporaries are
asked for.

## Main definitions

* `Temporaries.Search`: numbers are tried one after the other.
* `Temporaries.after`: the variables after temporaries of some types have been asked for.
* `Temporaries.Spent`: the numbers that have been tried are used up.
* `Temporaries.Added`: what one more temporary is.

## Main results

* `Temporaries.search_freeNumber`: the number that is found, and the numbers that are tried.
* `Temporaries.Search.tries_le`: no more numbers are tried than there are names, and one.
* `Temporaries.Spent.add?`, `Temporaries.Numbered.add?`: what adding a temporary keeps.
* `MethodDefinition.temporaries_apart`: the temporaries of a valid method.
-/

namespace BuildDrift

namespace Temporaries

/-! ### Searching for a name -/

/-- Different numbers have different names. -/
theorem nameOf_inj {stem : String} {j k : ℕ} : nameOf stem j = nameOf stem k ↔ j = k := by
  refine ⟨fun h => ?_, congrArg (nameOf stem)⟩
  rw [nameOf, nameOf, String.append_right_inj] at h
  have hdigits : Nat.toDigits 10 j = Nat.toDigits 10 k := by
    rw [← Nat.toList_repr, ← Nat.toList_repr]
    exact congrArg String.toList h
  rw [← Nat.ofDigitChars_ten_toDigits (n := j), hdigits, Nat.ofDigitChars_ten_toDigits]

/-- Numbers are tried one after the other, from a first one on, until the name of one is not taken:
how many are tried, and which one is found. -/
inductive Search (stem : String) (taken : List String) : ℕ → ℕ → ℕ → Prop
  /-- The name is not taken. -/
  | found {first : ℕ} (h : nameOf stem first ∉ taken) : Search stem taken first 1 first
  /-- The name is taken, and the next number is tried. -/
  | passed {first tries number : ℕ} (h : nameOf stem first ∈ taken)
      (hrest : Search stem taken (first + 1) tries number) :
      Search stem taken first (tries + 1) number

namespace Search

variable {stem : String} {taken : List String} {first tries number : ℕ}

theorem notMem (h : Search stem taken first tries number) : nameOf stem number ∉ taken := by
  induction h with
  | found h => exact h
  | passed h hrest ih => exact ih

/-- The numbers that are tried end with the one that is found. -/
theorem first_add_tries (h : Search stem taken first tries number) :
    first + tries = number + 1 := by
  induction h with
  | found h => rfl
  | passed h hrest ih => omega

/-- The names of the numbers that are passed over are taken. -/
theorem mem_of_lt (h : Search stem taken first tries number) {k : ℕ} (hfirst : first ≤ k)
    (hk : k < number) : nameOf stem k ∈ taken := by
  induction h with
  | found h => omega
  | @passed first tries number h hrest ih =>
    rcases Nat.eq_or_lt_of_le hfirst with rfl | hlt
    · exact h
    · exact ih hlt hk

end Search

/-- Numbers whose names are taken are no more than the taken names. -/
theorem sub_le_card_of_mem {stem : String} {taken : List String} {first number : ℕ}
    (h : ∀ k, first ≤ k → k < number → nameOf stem k ∈ taken) :
    number - first ≤ taken.toFinset.card := by
  rw [← Nat.card_Ico]
  refine Finset.card_le_card_of_injOn (nameOf stem) (fun k hk => ?_)
    fun j _ k _ heq => nameOf_inj.1 heq
  obtain ⟨hfirst, hlt⟩ := Finset.mem_Ico.1 hk
  exact List.mem_toFinset.2 (h k hfirst hlt)

/-- At most one number more is tried than there are taken names. -/
theorem Search.tries_le {stem : String} {taken : List String} {first tries number : ℕ}
    (h : Search stem taken first tries number) : tries ≤ taken.toFinset.card + 1 := by
  have hpassed := sub_le_card_of_mem fun k => h.mem_of_lt (k := k)
  have hsum := h.first_add_tries
  omega

/-- The search finds the free number. Names that have been passed over may be missing from the list
that is searched, since no later number has them. -/
theorem search_freeNumber (stem : String) (first : ℕ) (left : List String) {taken : List String}
    (hleft : ∀ k, first ≤ k → (nameOf stem k ∈ left ↔ nameOf stem k ∈ taken)) :
    ∃ tries, Search stem taken first tries (freeNumber stem first left) := by
  fun_induction freeNumber stem first left with
  | case1 first left h ih =>
    obtain ⟨tries, htries⟩ := ih fun k hk => by
      have hne : nameOf stem k ≠ nameOf stem first := by
        rw [ne_eq, nameOf_inj]
        omega
      rw [List.mem_erase_of_ne hne, hleft k (by omega)]
    exact ⟨tries + 1, .passed ((hleft first (Nat.le_refl first)).1 h) htries⟩
  | case2 first left h =>
    exact ⟨1, .found (mt (hleft first (Nat.le_refl first)).2 h)⟩

/-! ### Adding a temporary -/

/-- The names in use. -/
def names (t : Temporaries) : List String :=
  t.locals.map LocalVariable.name

/-- What one more temporary is: it has the first free name and the slot behind all variables there
are, and nothing else changes. -/
structure Added (t : Temporaries) (type : TypeRef) (tries number : ℕ) (slot : UInt16)
    (u : Temporaries) : Prop where
  /-- The number is searched for from the next one on. -/
  search : Search t.stem t.names t.next tries number
  /-- At most one number more is tried than there are names in use. -/
  tries_le : tries ≤ t.names.toFinset.card + 1
  /-- The next search goes on behind the numbers that have been tried. -/
  next_eq : u.next = t.next + tries
  /-- The temporary stands behind the variables there are, which stay as they are. -/
  locals_eq : u.locals = t.locals ++ [⟨slot, nameOf t.stem number, type⟩]
  /-- All names begin in the same way. -/
  stem_eq : u.stem = t.stem
  /-- The slot is the position of the temporary. -/
  slot_eq : slot.toNat = t.locals.length
  /-- The name is the name of no other variable. -/
  name_ne : ∀ v ∈ t.locals, v.name ≠ nameOf t.stem number

theorem exists_added {t u : Temporaries} {type : TypeRef} {slot : UInt16}
    (h : t.add? type = some (slot, u)) : ∃ tries number, t.Added type tries number slot u := by
  obtain ⟨hslot, -⟩ := add?_eq_some h
  obtain ⟨tries, hsearch⟩ := search_freeNumber t.stem t.next t.names fun _ _ => Iff.rfl
  have hsum := hsearch.first_add_tries
  rw [add?] at h
  split_ifs at h
  cases h
  refine ⟨tries, _, hsearch, hsearch.tries_le, hsum.symm, rfl, rfl, hslot, fun v hv heq => ?_⟩
  exact hsearch.notMem (heq ▸ List.mem_map_of_mem hv)

theorem add?_eq_none_iff (t : Temporaries) (type : TypeRef) :
    t.add? type = none ↔ slotLimit ≤ t.locals.length := by
  rw [add?]
  split_ifs with h
  · simpa using h
  · simpa using h

/-! ### What adding temporaries keeps -/

/-- Every number below the next one has a name that is in use. -/
def Spent (t : Temporaries) : Prop :=
  ∀ k < t.next, nameOf t.stem k ∈ t.names

theorem Spent.add? {t u : Temporaries} {type : TypeRef} {slot : UInt16} (ht : t.Spent)
    (h : t.add? type = some (slot, u)) : u.Spent := by
  obtain ⟨tries, number, hadded⟩ := exists_added h
  intro k hk
  have hsum := hadded.search.first_add_tries
  rw [hadded.next_eq, hsum] at hk
  rw [names, hadded.locals_eq, hadded.stem_eq, List.map_append, List.mem_append]
  rcases Nat.lt_or_ge k t.next with hlt | hge
  · exact .inl (ht k hlt)
  · rcases Nat.lt_or_eq_of_le (Nat.le_of_lt_succ hk) with hlt | rfl
    · exact .inl (hadded.search.mem_of_lt hge hlt)
    · exact .inr List.mem_cons_self

/-- There are at least as many variables as numbers below the next one. -/
theorem Spent.next_le {t : Temporaries} (ht : t.Spent) : t.next ≤ t.locals.length := by
  have hcard : t.next - 0 ≤ t.names.toFinset.card := sub_le_card_of_mem fun k _ => ht k
  have hlength : t.names.toFinset.card ≤ t.names.length := List.toFinset_card_le _
  rw [names, List.length_map] at hlength
  exact Nat.le_trans hcard hlength

/-- Variables that are numbered by position are no more than there are slots. -/
theorem Numbered.length_le {t : Temporaries} (ht : t.Numbered) : t.locals.length ≤ slotLimit := by
  by_contra hlt
  have hget := List.getElem?_eq_getElem (Nat.lt_of_not_le hlt)
  have hindex := ht _ _ hget
  have hbound : t.locals[slotLimit].index.toNat < slotLimit := UInt16.toNat_lt _
  exact Nat.ne_of_lt hbound hindex

/-- No variable has the slot behind all of them. -/
theorem Numbered.index_ne {t : Temporaries} (ht : t.Numbered) {slot : UInt16}
    (hslot : slot.toNat = t.locals.length) : ∀ v ∈ t.locals, v.index ≠ slot := by
  rintro v hv rfl
  obtain ⟨k, hk⟩ := List.mem_iff_getElem?.1 hv
  have hlt := (List.getElem?_eq_some_iff.1 hk).1
  rw [ht k v hk] at hslot
  omega

/-! ### Adding temporaries one after the other -/

/-- The variables after temporaries of these types have been asked for, one after the other. When
there is no slot left, nothing changes. -/
def after (t : Temporaries) (types : List TypeRef) : Temporaries :=
  types.foldl (fun t type => ((t.add? type).map Prod.snd).getD t) t

/-- What holds of variables, and still holds when one is added, holds after any number of them. -/
theorem after_induction {P : Temporaries → Prop} {t : Temporaries} (ht : P t)
    (hadd : ∀ t u type slot, t.add? type = some (slot, u) → P t → P u) (types : List TypeRef) :
    P (t.after types) := by
  induction types generalizing t with
  | nil => exact ht
  | cons type types ih =>
    have hnext : P (((t.add? type).map Prod.snd).getD t) := by
      cases h : t.add? type with
      | none => exact ht
      | some added => exact hadd t added.2 type added.1 h ht
    exact ih hnext

end Temporaries

namespace MethodDefinition

open Temporaries

/-- The variables of a method, no temporary among them yet. -/
def temporaries (m : MethodDefinition) (stem : String) : Temporaries :=
  { stem, locals := m.locals }

/-- However many temporaries are asked for in a valid method, the declared variables stay in front.
The next temporary is refused exactly when all slots are taken, and then nothing changes. Otherwise
its name is found after no more tries than there are names in use, and one; it is the name of no
other variable. The numbers in names stay within 32 bits. The slot of the temporary is its position,
and the slot of no other variable. -/
theorem temporaries_apart {m : MethodDefinition} (hm : m.validate = .ok ()) (stem : String)
    (types : List TypeRef) (type : TypeRef) :
    let t := (m.temporaries stem).after types
    m.locals <+: t.locals ∧ t.locals.length ≤ slotLimit ∧
      (t.add? type = none ↔ t.locals.length = slotLimit) ∧
      (t.add? type = none → t.after [type] = t) ∧
      ∀ slot u, t.add? type = some (slot, u) → t.after [type] = u ∧ u.next < UInt32.size ∧
        (∀ v ∈ t.locals, v.index ≠ slot) ∧ ∃ tries number, t.Added type tries number slot u := by
  intro t
  have hnumbered : t.Numbered := after_induction (P := Numbered) (t := m.temporaries stem)
    ((m.validate_eq_ok_iff).1 hm).locals (fun _ _ _ _ hadd ht => ht.add? hadd) types
  have hspent : t.Spent := after_induction (P := Spent) (t := m.temporaries stem)
    (fun k hk => absurd hk (Nat.not_lt_zero k)) (fun _ _ _ _ hadd ht => ht.add? hadd) types
  have hlocals : m.locals <+: t.locals := after_induction (P := fun t => m.locals <+: t.locals)
    (List.prefix_refl m.locals) (fun _ _ _ _ hadd ht => by
      obtain ⟨-, name, hlocals⟩ := add?_eq_some hadd
      rw [hlocals]
      exact ht.trans (List.prefix_append _ _)) types
  have hafter : t.after [type] = ((t.add? type).map Prod.snd).getD t := rfl
  refine ⟨hlocals, hnumbered.length_le, ?_, fun hnone => ?_, fun slot u hadd => ?_⟩
  · rw [add?_eq_none_iff]
    exact ⟨Nat.le_antisymm hnumbered.length_le, Nat.le_of_eq ∘ Eq.symm⟩
  · rw [hafter, hnone, Option.map_none, Option.getD_none]
  · obtain ⟨tries, number, hadded⟩ := exists_added hadd
    have hnext : u.next ≤ slotLimit :=
      Nat.le_trans (hspent.add? hadd).next_le (hnumbered.add? hadd).length_le
    refine ⟨?_, Nat.lt_of_le_of_lt hnext (by decide), hnumbered.index_ne hadded.slot_eq, tries,
      number, hadded⟩
    rw [hafter, hadd, Option.map_some, Option.getD_some]

/-- A method whose first variable is named like a temporary. -/
def crowded : MethodDefinition where
  declaringType := ⟨"Sample", "StackTest", false⟩
  name := "Test"
  locals := [⟨0, "__result_0", .int32⟩, ⟨1, "subject", .object⟩]

/-- The first temporary passes over the name of the declared variable; the next one takes slot three
and the name behind. -/
theorem temporaries_apart_crowded : crowded.validate = .ok () ∧
    let t := (crowded.temporaries "__result").after [.int32]
    t.names = ["__result_0", "subject", "__result_1"] ∧
      ∃ u, t.add? .string = some (3, u) ∧ u.next < UInt32.size ∧
        ∃ tries number, t.Added .string tries number 3 u := by
  have hvalid : crowded.validate = .ok () := by rfl
  have hnames : ((crowded.temporaries "__result").after [.int32]).names =
      ["__result_0", "subject", "__result_1"] := by decide +kernel
  have hadd : ((crowded.temporaries "__result").after [.int32]).add? .string =
      some (3, ⟨"__result", [⟨0, "__result_0", .int32⟩, ⟨1, "subject", .object⟩,
        ⟨2, "__result_1", .int32⟩, ⟨3, "__result_2", .string⟩], 3⟩) := by decide +kernel
  obtain ⟨-, -, -, -, hadded⟩ := temporaries_apart hvalid "__result" [.int32] .string
  obtain ⟨-, hnext, -, hadded⟩ := hadded 3 _ hadd
  exact ⟨hvalid, hnames, _, hadd, hnext, hadded⟩

end MethodDefinition

end BuildDrift
