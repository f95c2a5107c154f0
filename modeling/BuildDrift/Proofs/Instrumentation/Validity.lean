import BuildDrift.Proofs.Code.Saturation
import BuildDrift.Proofs.Instrumentation.Growth
import BuildDrift.Proofs.Instrumentation.Sites

/-!
# Instrumented methods are valid

An instrumented body has no gaps: it begins at offset zero, and every operation stands behind the
one before it, or at the greatest offset once offsets run out. Groups stand in the order of the
given operations, so the ranges of the region stay in order. Temporaries take the slots behind the
declared variables one by one, so variables stay numbered by position. What can go wrong is that
offsets run out, and then the method is not valid.

## Main definitions

* `Body.Gapless`: a body in which every operation stands at the end of the one before.
* `Temporaries.Numbered`: variables are numbered by position.

## Main results

* `MethodDefinition.Injectable.ordered_movedRegion`: the ranges of the moved region are in order.
* `MethodDefinition.numbered_instrumented`: the variables are numbered by position.
* `Instrumentation.onMethod_valid_iff`: when an instrumented method is valid.
-/

namespace BuildDrift

open Instruction

/-! ### Bodies without gaps -/

namespace Body

/-- The first operation stands at offset zero and every other one at the end of the one before, or
at the greatest offset if that end is out of range. -/
structure Gapless (body : Body) : Prop where
  /-- The first operation. -/
  first : ∀ o : Operation, body[0]? = some o → o.offset = 0
  /-- An operation behind another one. -/
  next : ∀ k (o p : Operation), body[k]? = some o → body[k + 1]? = some p →
    p.offset.toNat = min (o.offset.toNat + o.size) Offset.greatest.toNat

theorem gapless_packed (code : List Instruction) : (packed 0 code).Gapless where
  first o ho := by
    obtain ⟨i, -, rfl⟩ := exists_of_getElem?_packed ho
    rfl
  next k o p ho hp := by
    obtain ⟨i, hi, rfl⟩ := exists_of_getElem?_packed ho
    obtain ⟨j, -, rfl⟩ := exists_of_getElem?_packed hp
    have hsize : (⟨.capped (0 + weight (code.take k)), i.1, i.2⟩ : Operation).size = i.size := rfl
    have hgreatest : Offset.greatest.toNat = UInt32.size - 1 := rfl
    rw [weight_take_succ hi, ← Nat.add_assoc, ← Offset.capped_advance, Offset.toNat_advance, hsize,
      hgreatest]

theorem placed_packed (code : List Instruction) :
    (packed 0 code).Placed fun k => weight (code.take k) where
  offset k o ho := by
    obtain ⟨i, -, rfl⟩ := exists_of_getElem?_packed ho
    rw [Nat.zero_add]
  room k o ho := by
    obtain ⟨i, hi, rfl⟩ := exists_of_getElem?_packed ho
    exact Nat.le_of_eq (weight_take_succ hi).symm

/-- The exact end of a packed body. -/
theorem end_packed {code : List Instruction} {last : Operation}
    (hlast : (packed 0 code).getLast? = some last) :
    weight (code.take ((packed 0 code).length - 1)) + last.size = weight code := by
  rw [List.getLast?_eq_getElem?, length_packed] at hlast
  obtain ⟨i, hi, rfl⟩ := exists_of_getElem?_packed hlast
  have hlt := (List.getElem?_eq_some_iff.1 hi).1
  have hsucc := weight_take_succ hi
  rw [Nat.sub_add_cancel (Nat.one_le_of_lt hlt), List.take_length] at hsucc
  rw [length_packed, hsucc]
  rfl

/-- Operations of a packed body stand in order, even if offsets run out. -/
theorem offset_le_packed {code : List Instruction} {p q : ℕ} (hpq : p ≤ q) {a b : Offset}
    (ha : (packed 0 code).HasOffset p a) (hb : (packed 0 code).HasOffset q b) : a ≤ b := by
  obtain ⟨o, ho, rfl⟩ := ha
  obtain ⟨o', ho', rfl⟩ := hb
  have hle : weight (code.take p) ≤ weight (code.take q) := by
    rcases Nat.lt_or_eq_of_le hpq with hlt | rfl
    · have hq := (List.getElem?_eq_some_iff.1 ho').1
      rw [length_packed] at hq
      exact Nat.le_of_lt (weight_take_lt hlt (Nat.le_of_lt hq))
    · exact Nat.le_refl _
  rw [(placed_packed code).offset p o ho, (placed_packed code).offset q o' ho',
    UInt32.le_iff_toNat_le, Offset.toNat_capped, Offset.toNat_capped]
  omega

end Body

/-! ### Variables by position -/

/-- Variables are numbered by position. -/
def Temporaries.Numbered (t : Temporaries) : Prop :=
  ∀ (k : ℕ) v, t.locals[k]? = some v → v.index.toNat = k

/-- Variables that are added keep the numbers in order. -/
theorem Temporaries.Numbered.add? {t u : Temporaries} {type : TypeRef} {slot : UInt16}
    (ht : t.Numbered) (h : t.add? type = some (slot, u)) : u.Numbered := by
  obtain ⟨hslot, name, hlocals⟩ := Temporaries.add?_eq_some h
  intro k v hk
  rw [hlocals] at hk
  rcases Nat.lt_or_ge k t.locals.length with hlt | hle
  · rw [List.getElem?_append_left hlt] at hk
    exact ht k v hk
  · rw [List.getElem?_append_right hle, List.getElem?_singleton] at hk
    split_ifs at hk with hlength
    cases hk
    rw [hslot]
    omega

namespace MethodDefinition

variable {m : MethodDefinition} (c : InstrumentConfig) (region : ExceptionRegion)

theorem numbered_instrumented (hm : m.Valid) :
    ∀ (k : ℕ) v, (m.instrumented c region).locals[k]? = some v → v.index.toNat = k := by
  have hfound : (m.found c region m.operations.length).temporaries.Numbered :=
    Progress.temporaries_before _ _ (Nat.le_refl _) hm.locals fun _ _ _ _ hadd ht => ht.add? hadd
  rw [found, Progress.before_length] at hfound
  exact hfound

/-! ### The instrumented method -/

/-- The ranges of the moved region are in order, even if offsets run out. -/
theorem Injectable.ordered_movedRegion {region : ExceptionRegion} (h : m.Injectable region) :
    (m.movedRegion c region).tryStart ≤ (m.movedRegion c region).tryEnd ∧
      (m.movedRegion c region).handlerStart ≤ (m.movedRegion c region).handlerEnd := by
  obtain ⟨a, b, a', b', hspans⟩ := h.exists_spans
  have hmoved := hspans.moved c h.valid.ordered
  -- A range ends with the last operation of a group, and no group is empty.
  have hgroups {first last : ℕ} {start stop : Offset} (hle : start ≤ stop)
      (hfirst : m.operations.HasOffset first start) (hlast : m.operations.HasOffset last stop) :
      m.groupStart c region first ≤ m.groupStart c region (last + 1) - 1 := by
    obtain ⟨p, hp, rfl⟩ := hfirst
    obtain ⟨q, hq, rfl⟩ := hlast
    have hpos := (h.valid.ordered.offset_le_iff hp hq).1 hle
    have hlt := groupStart_lt c region (Nat.lt_succ_of_le hpos) (List.getElem?_eq_some_iff.1 hq).1
    exact Nat.le_sub_one_of_lt hlt
  obtain ⟨htry, hhandler⟩ := h.valid.regions region (by simp [h.regions])
  exact ⟨Body.offset_le_packed (hgroups htry hspans.tryFirst hspans.tryLast) hmoved.tryFirst
      hmoved.tryLast,
    Body.offset_le_packed (hgroups hhandler hspans.handlerFirst hspans.handlerLast)
      hmoved.handlerFirst hmoved.handlerLast⟩

theorem operations_instrumented_ne_nil : (m.instrumented c region).operations ≠ [] := by
  intro hnil
  have hcode : m.code c region = [] := by
    rw [← Body.instructions_packed 0 (m.code c region)]
    exact congrArg Body.instructions hnil
  have hopening := take_code_zero (m := m) c region
  rw [hcode, List.take_nil] at hopening
  exact List.cons_ne_nil _ _ hopening.symm

/-- An instrumented method is valid if and only if its body is laid out exactly. -/
theorem Injectable.valid_instrumented_iff {region : ExceptionRegion} (h : m.Injectable region) :
    (m.instrumented c region).Valid ↔ weight (m.code c region) < UInt32.size := by
  have hregions : ∀ r ∈ (m.instrumented c region).regions,
      r.tryStart ≤ r.tryEnd ∧ r.handlerStart ≤ r.handlerEnd := by
    intro r hr
    obtain rfl := List.mem_singleton.1 hr
    exact h.ordered_movedRegion c
  have hlast := List.getLast?_eq_some_getLast (operations_instrumented_ne_nil (m := m) c region)
  rw [valid_iff_of_placed (Body.placed_packed (m.code c region)) hregions
    (numbered_instrumented c region h.valid)]
  constructor
  · intro hend
    rw [← Body.end_packed hlast]
    exact hend _ hlast
  · intro hexact last hlast'
    rw [← Body.end_packed hlast'] at hexact
    exact hexact

end MethodDefinition

namespace Instrumentation

/-- An instrumented method has a body without gaps, a region whose ranges are in order, and the
declared variables followed by the temporaries, numbered by position. It is valid if and only if the
bytes of its body fit the range of offsets. -/
theorem onMethod_valid_iff {i : Instrumentation} {m m' : MethodDefinition} {tally : Tally}
    {logs : List LogRecord} (h : i.onMethod m = .ok ⟨m', .injected tally, logs⟩) :
    m'.operations ≠ [] ∧ m'.operations.Gapless ∧
      (∃ region, m'.regions = [region] ∧ region.tryStart ≤ region.tryEnd ∧
        region.handlerStart ≤ region.handlerEnd) ∧
      (∃ added, m'.locals = m.locals ++ added ∧ added.length = tally.addedLocals) ∧
      (∀ (k : ℕ) v, m'.locals[k]? = some v → v.index.toNat = k) ∧
      (m'.validate = .ok () ↔
        (m'.operations.map Operation.size).sum ≤ Offset.greatest.toNat) := by
  obtain ⟨region, hm, rfl, rfl⟩ := i.injectable_of_onMethod h
  obtain ⟨added, hlocals, hlength⟩ := MethodDefinition.locals_instrumented (m := m) i.config region
  refine ⟨MethodDefinition.operations_instrumented_ne_nil i.config region,
    Body.gapless_packed _, ⟨_, rfl, hm.ordered_movedRegion i.config⟩, ⟨added, hlocals, ?_⟩,
    MethodDefinition.numbered_instrumented i.config region hm.valid, ?_⟩
  · rw [hlength, m.tally_addedLocals i.config region]
  · rw [MethodDefinition.validate_eq_ok_iff, hm.valid_instrumented_iff i.config,
      MethodDefinition.sum_size_instrumented]
    exact (Nat.le_sub_one_iff_lt (by decide)).symm

/-- The example stays valid. -/
theorem onMethod_sample_valid : ∃ m' tally logs,
    ({} : Instrumentation).onMethod (.sample 6) = .ok ⟨m', .injected tally, logs⟩ ∧
      m'.operations.Gapless ∧ m'.locals.length = 2 ∧ m'.validate = .ok () := by
  obtain ⟨logs, h⟩ :=
    ({} : Instrumentation).onMethod_eq_injected MethodDefinition.injectable_sample
  obtain ⟨-, hgapless, -, -, -, hvalid⟩ := onMethod_valid_iff h
  refine ⟨_, _, logs, h, hgapless, by decide, hvalid.2 ?_⟩
  exact Nat.le_sub_one_of_lt MethodDefinition.exact_sample

end Instrumentation

end BuildDrift
