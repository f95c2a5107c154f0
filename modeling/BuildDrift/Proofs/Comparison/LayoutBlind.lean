import BuildDrift.Proofs.Comparison.Relocation
import Mathlib.Order.Bounds.Basic
import Mathlib.Tactic.IntervalCases

/-!
# The laws of comparing bodies

Comparing bodies is comparing two rows of kinds and destinations. It is therefore an equivalence
when it finds them identical, it names the least position at which they differ, and it does not
depend on which of the bodies is the older one. What only moves, with its targets moved along, is
identical; and a single target that leads elsewhere shows at the position of its operation.

## Main definitions

* `BodyVerdict.swap`: the outcome with the bodies exchanged.
* `Body.DiffersAt`: the operations at a position differ.
* `Body.redirect`: a body with the target of one operation replaced.

## Main results

* `Body.compare_eq_operationChanged_iff`: the position that is named is the least that differs.
* `Body.Moved.compare_redirect`: a redirected target shows at its position.
* `Body.compare_blind`: the laws together.
-/

namespace BuildDrift

/-- The outcome with the older and the newer body exchanged. -/
def BodyVerdict.swap : BodyVerdict → BodyVerdict
  | identical => identical
  | countChanged old new => countChanged new old
  | operationChanged position => operationChanged position

/-! ### Alike is an equivalence -/

namespace Operand.Alike

variable {f g h : Offset → Destination} {a b c : Operand}

theorem symm (hab : Alike f g a b) : Alike g f b a := by
  cases hab with
  | same hnone => exact .same hnone
  | target hst => exact .target hst.symm

theorem trans (hab : Alike f g a b) (hbc : Alike g h b c) : Alike f h a c := by
  cases hab with
  | same hnone =>
    cases hbc with
    | same => exact .same hnone
    | target => exact absurd rfl (hnone _)
  | target hst =>
    cases hbc with
    | same hnone => exact absurd rfl (hnone _)
    | target htu => exact .target (hst.trans htu)

end Operand.Alike

namespace Body

variable {old new : Body}

theorem Alike.symm (h : old.Alike new) : new.Alike old where
  length := h.length.symm
  kind k p o hp ho := (h.kind k o p ho hp).symm
  operand k p o hp ho := (h.operand k o p ho hp).symm

theorem Alike.trans {newest : Body} (h : old.Alike new) (h' : new.Alike newest) :
    old.Alike newest := by
  have hbetween {k : ℕ} {o : Operation} (ho : old[k]? = some o) : ∃ p, new[k]? = some p :=
    ⟨_, List.getElem?_eq_getElem (h.length ▸ (List.getElem?_eq_some_iff.1 ho).1)⟩
  refine ⟨h.length.trans h'.length, fun k o q ho hq => ?_, fun k o q ho hq => ?_⟩
  · obtain ⟨p, hp⟩ := hbetween ho
    exact (h.kind k o p ho hp).trans (h'.kind k p q hp hq)
  · obtain ⟨p, hp⟩ := hbetween ho
    exact (h.operand k o p ho hp).trans (h'.operand k p q hp hq)

/-! ### The position that is named -/

/-- The operations at a position differ in kind, or in what they act on. -/
def DiffersAt (old new : Body) (k : ℕ) : Prop :=
  ∃ o p, old[k]? = some o ∧ new[k]? = some p ∧
    ¬(o.kind = p.kind ∧ Operand.Alike old.destination new.destination o.operand p.operand)

theorem DiffersAt.symm {k : ℕ} : old.DiffersAt new k → new.DiffersAt old k := by
  rintro ⟨o, p, ho, hp, hdiffer⟩
  exact ⟨p, o, hp, ho, fun ⟨hkind, hoperand⟩ => hdiffer ⟨hkind.symm, hoperand.symm⟩⟩

theorem differsAt_comm {k : ℕ} : old.DiffersAt new k ↔ new.DiffersAt old k :=
  ⟨.symm, .symm⟩

/-- The first difference is at a position at which the operations are not the same, and at no
earlier one are they not. -/
theorem firstDifference_eq_some_iff (same : Operation → Operation → Bool) (i : ℕ) {j : ℕ} :
    firstDifference same i old new = some j ↔ ∃ k, j = i + k ∧
      IsLeast {k | ∃ o p, old[k]? = some o ∧ new[k]? = some p ∧ ¬same o p = true} k := by
  induction old generalizing new i with
  | nil => simp [firstDifference, IsLeast]
  | cons o old ih =>
    cases new with
    | nil => simp [firstDifference, IsLeast]
    | cons p new =>
      rw [firstDifference]
      split_ifs with hsame
      · rw [ih]
        constructor
        · rintro ⟨k, rfl, hk, hleast⟩
          refine ⟨k + 1, by omega, hk, fun l hl => ?_⟩
          cases l with
          | zero =>
            obtain ⟨_, _, ⟨⟩, ⟨⟩, hdiffer⟩ := hl
            exact absurd hsame hdiffer
          | succ l => exact Nat.succ_le_succ (hleast hl)
        · rintro ⟨k, rfl, hk, hleast⟩
          cases k with
          | zero =>
            obtain ⟨_, _, ⟨⟩, ⟨⟩, hdiffer⟩ := hk
            exact absurd hsame hdiffer
          | succ k => exact ⟨k, by omega, hk, fun l hl => Nat.le_of_succ_le_succ (@hleast (l + 1) hl)⟩
      · have hzero : IsLeast {k | ∃ o' p', (o :: old)[k]? = some o' ∧ (p :: new)[k]? = some p' ∧
            ¬same o' p' = true} 0 := ⟨⟨o, p, rfl, rfl, hsame⟩, fun _ _ => Nat.zero_le _⟩
        rw [Option.some.injEq]
        constructor
        · rintro rfl
          exact ⟨0, rfl, hzero⟩
        · rintro ⟨k, rfl, hk⟩
          rw [hk.unique hzero, Nat.add_zero]

theorem compare_eq_countChanged_iff {m n : ℕ} : compare old new = .countChanged m n ↔
    m = old.length ∧ n = new.length ∧ old.length ≠ new.length := by
  rw [compare]
  split_ifs with hlength
  · rw [BodyVerdict.countChanged.injEq]
    exact ⟨fun h => ⟨h.1.symm, h.2.symm, hlength⟩, fun h => ⟨h.1.symm, h.2.1.symm⟩⟩
  · refine iff_of_false ?_ fun h => hlength h.2.2
    dsimp only
    split <;> simp

/-- The position that is named is the least one at which the operations differ. -/
theorem compare_eq_operationChanged_iff {k : ℕ} : compare old new = .operationChanged k ↔
    old.length = new.length ∧ IsLeast {k | old.DiffersAt new k} k := by
  have hdestination (body : Body) :
      destinationIn body.positions body.codeEnd? = body.destination := rfl
  rw [compare]
  split_ifs with hlength
  · exact iff_of_false (by simp) fun h => hlength h.1
  · rw [ne_eq, not_not] at hlength
    have hsome := @firstDifference_eq_some_iff old new
      (sameOperation old.destination new.destination) 0 k
    simp only [sameOperation_iff, Nat.zero_add, exists_eq_left'] at hsome
    simp only [hdestination, DiffersAt, hlength, true_and]
    rw [← hsome]
    cases firstDifference (sameOperation old.destination new.destination) 0 old new <;> simp

/-- Which body is the older one only matters for the order of the two lengths. -/
theorem compare_swap (old new : Body) : compare new old = (compare old new).swap := by
  cases h : compare old new with
  | identical =>
    exact (compare_eq_identical_iff new old).2 ((compare_eq_identical_iff old new).1 h).symm
  | countChanged m n =>
    obtain ⟨rfl, rfl, hlength⟩ := compare_eq_countChanged_iff.1 h
    exact compare_eq_countChanged_iff.2 ⟨rfl, rfl, hlength.symm⟩
  | operationChanged k =>
    obtain ⟨hlength, hk⟩ := compare_eq_operationChanged_iff.1 h
    have hk' : IsLeast {k | new.DiffersAt old k} k := by
      simpa only [differsAt_comm] using hk
    exact compare_eq_operationChanged_iff.2 ⟨hlength.symm, hk'⟩

/-- To be found identical is an equivalence. -/
theorem equivalence_identical : Equivalence fun old new => compare old new = .identical := by
  simp only [compare_eq_identical_iff]
  exact ⟨Alike.refl, Alike.symm, Alike.trans⟩

/-! ### Redirected targets -/

/-- The body with the target of the operation at a position replaced. -/
def redirect (body : Body) (k : ℕ) (target : Offset) : Body :=
  body.modify k fun o => { o with operand := .target target }

section Redirect

variable {body : Body} {k : ℕ} {o : Operation} {t t' : Offset}

theorem getElem?_redirect (ho : body[k]? = some o) :
    (body.redirect k t')[k]? = some { o with operand := .target t' } := by
  rw [redirect, List.getElem?_modify_eq, ho]
  rfl

theorem getElem?_redirect_ne {j : ℕ} (h : k ≠ j) : (body.redirect k t')[j]? = body[j]? := by
  rw [redirect, List.getElem?_modify_ne _ _ h]

/-- Operations stay where they are and keep their size, so every offset leads where it did. -/
theorem destination_redirect (ho : body[k]? = some o) (ht : o.operand = .target t) :
    (body.redirect k t').destination = body.destination := by
  have hplace {α : Type} (f : Operation → α) (hf : f { o with operand := .target t' } = f o)
      (j : ℕ) : (body.redirect k t')[j]?.map f = body[j]?.map f := by
    by_cases hjk : k = j
    · subst hjk
      rw [getElem?_redirect ho, ho, Option.map_some, Option.map_some, hf]
    · rw [getElem?_redirect_ne hjk]
  have hoffset : (body.redirect k t').map Operation.offset = body.map Operation.offset :=
    List.ext_getElem? fun j => by
      rw [List.getElem?_map, List.getElem?_map, hplace Operation.offset rfl]
  have hpositions : (body.redirect k t').positions = body.positions := by
    have hzip (b : Body) : b.positions = .ofList (b.map Operation.offset).zipIdx := by
      rw [List.zipIdx_map]
      rfl
    rw [hzip, hzip, hoffset]
  have hlength : (body.redirect k t').length = body.length := by
    simpa using congrArg List.length hoffset
  have hend : (body.redirect k t').codeEnd? = body.codeEnd? := by
    have hsize : Operation.endOffset? { o with operand := .target t' } = o.endOffset? := by
      rw [Operation.endOffset?, Operation.endOffset?, Operation.size, Operation.size, ht,
        Operation.sizeOf_target o.kind t' t]
    have hlast := hplace Operation.endOffset? hsize (body.length - 1)
    rw [codeEnd?, codeEnd?, List.getLast?_eq_getElem?, List.getLast?_eq_getElem?, hlength]
    cases h : (body.redirect k t')[body.length - 1]? <;>
      cases h' : body[body.length - 1]? <;> simp_all
  funext offset
  rw [destination, destination, hpositions, hend]

/-- Different offsets of an ordered body are different destinations. -/
theorem Ordered.destination_injective (hb : body.Ordered) :
    Function.Injective body.destination := by
  intro s t h
  cases hs : body.destination s with
  | position k =>
    obtain ⟨o, ho, rfl⟩ := hb.destination_eq_position_iff.1 hs
    obtain ⟨p, hp, rfl⟩ := hb.destination_eq_position_iff.1 (h.symm.trans hs)
    rw [Option.some.inj (ho.symm.trans hp)]
  | codeEnd =>
    have hcodeEnd {t : Offset} (ht : body.destination t = .codeEnd) : some t = body.codeEnd? := by
      rw [destination, destinationIn] at ht
      split at ht
      · exact absurd ht (by simp)
      · split_ifs at ht with hend
        exact hend
    exact Option.some.inj ((hcodeEnd hs).trans (hcodeEnd (h.symm.trans hs)).symm)
  | nowhere offset =>
    have hnowhere {t : Offset} (ht : body.destination t = .nowhere offset) : t = offset := by
      rw [destination, destinationIn] at ht
      split at ht
      · exact absurd ht (by simp)
      · split_ifs at ht
        exact Destination.nowhere.inj ht
    exact (hnowhere hs).trans (hnowhere (h.symm.trans hs)).symm

/-- If a body is moved and then one of its targets is redirected, the operation of that target is
the only one that differs. -/
theorem Moved.compare_redirect (h : old.Moved new) (ho : new[k]? = some o)
    (ht : o.operand = .target t) (hne : t' ≠ t) :
    compare old (new.redirect k t') = .operationChanged k := by
  have hdestination : (new.redirect k t').destination = new.destination :=
    destination_redirect ho ht
  have hlength : old.length = (new.redirect k t').length := by
    rw [redirect, List.length_modify, h.length]
  have hother {j : ℕ} (hj : old.DiffersAt (new.redirect k t') j) : k = j := by
    by_contra hjk
    obtain ⟨p, q, hp, hq, hdiffer⟩ := hj
    rw [getElem?_redirect_ne hjk] at hq
    rw [hdestination] at hdiffer
    exact hdiffer ⟨h.kind j p q hp hq, h.alike.operand j p q hp hq⟩
  refine compare_eq_operationChanged_iff.2 ⟨hlength, ?_, fun j hj => Nat.le_of_eq (hother hj)⟩
  have hk : k < old.length := h.length.symm ▸ (List.getElem?_eq_some_iff.1 ho).1
  have hp : old[k]? = some old[k] := List.getElem?_eq_getElem hk
  refine ⟨_, _, hp, getElem?_redirect ho, fun ⟨_, halike⟩ => ?_⟩
  have hmoved := h.alike.operand k _ o hp ho
  rw [ht] at hmoved
  rw [hdestination] at halike
  generalize old[k].operand = a at hmoved halike
  cases hmoved with
  | same hnone => exact hnone t rfl
  | target hst =>
    cases halike with
    | same hnone => exact hnone _ rfl
    | target hst' =>
      exact hne (h.new_proper.ordered.destination_injective (hst'.symm.trans hst))

end Redirect

/-! ### The laws -/

/-- Comparing bodies is blind to layout. To be found identical is an equivalence; exchanging the
bodies exchanges the lengths, if these differ, and changes nothing else; a position that is named is
the least at which kinds or destinations differ. A body that is moved, its targets with it, is found
identical; and if then one target is set to another offset, and so leads to another destination, the
position of its operation is named. -/
theorem compare_blind :
    (Equivalence fun old new : Body => compare old new = .identical) ∧
    (∀ old new : Body, compare new old = (compare old new).swap) ∧
    (∀ (old new : Body) (k : ℕ), compare old new = .operationChanged k ↔
      old.length = new.length ∧ IsLeast {k | old.DiffersAt new k} k) ∧
    (∀ old new : Body, old.Moved new → compare old new = .identical ∧
      ∀ (k : ℕ) (o : Operation) (t t' : Offset), new[k]? = some o → o.operand = .target t →
        t' ≠ t → compare old (new.redirect k t') = .operationChanged k) :=
  ⟨equivalence_identical, compare_swap, fun _ _ _ => compare_eq_operationChanged_iff,
    fun _ _ h => ⟨h.compare_eq, fun _ _ _ _ ho ht hne => h.compare_redirect ho ht hne⟩⟩

/-- A body that loads a constant that is not a number, over and over. -/
def sampleLoad (spacing : Offset) : Body := [
  ⟨0, .other 0x23, .immediate (.float ⟨0x7FF8000000000000⟩)⟩,
  ⟨spacing, .leave, .target 0⟩]

theorem moved_sampleLoad : (sampleLoad 9).Moved (sampleLoad 12) where
  old_proper := ⟨(checkOrder_eq_ok_iff _).1 (by rfl), by rfl⟩
  new_proper := ⟨(checkOrder_eq_ok_iff _).1 (by rfl), by rfl⟩
  length := rfl
  kind k o p ho hp := by
    have hk : k < 2 := (List.getElem?_eq_some_iff.1 ho).1
    interval_cases k <;> cases ho <;> cases hp <;> rfl
  operand k o p ho hp := by
    have hk : k < 2 := (List.getElem?_eq_some_iff.1 ho).1
    interval_cases k <;> cases ho <;> cases hp
    · exact .same (by simp)
    · exact .operation (k := 0) ⟨_, rfl, rfl⟩ ⟨_, rfl, rfl⟩

/-- The body is identical to itself and to the one that is moved, but not if the loop is left
instead, by a target at the end. -/
theorem compare_blind_sampleLoad : (sampleLoad 9).Moved (sampleLoad 12) ∧
    compare (sampleLoad 9) (sampleLoad 9) = .identical ∧
    compare (sampleLoad 9) (sampleLoad 12) = .identical ∧
    compare (sampleLoad 9) ((sampleLoad 12).redirect 1 17) = .operationChanged 1 := by
  obtain ⟨hequivalence, -, -, hmoved⟩ := compare_blind
  obtain ⟨hidentical, hredirect⟩ := hmoved _ _ moved_sampleLoad
  exact ⟨moved_sampleLoad, hequivalence.refl _, hidentical,
    hredirect 1 _ 0 17 rfl rfl (by decide)⟩

end Body

end BuildDrift
