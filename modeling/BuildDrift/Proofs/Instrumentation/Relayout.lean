import BuildDrift.Proofs.Comparison.Body
import BuildDrift.Proofs.Instrumentation.Insertion
import Mathlib.Data.List.Forall2
import Mathlib.Tactic.IntervalCases

/-!
# Instrumenting does not depend on where operations stand

Two bodies that are found identical differ in the offsets of their operations only. The pass looks
at what operations do, at the methods and variables they refer to, and at which of them are
protected; sizes do not depend on where targets lead. So two methods with identical bodies, whose
regions start and stop at the same positions, are instrumented alike: the instrumented methods are
equal, and the same sites are not recorded.

## Main definitions

* `MethodDefinition.Relaid`: methods that differ only in where their operations stand.
* `Tally.Alike`: tallies with equal counters that name the same sites.
* `Instrumented.Alike`: the same outcome for two methods.

## Main results

* `MethodDefinition.relocate_eq_arrival`: where a target leads depends on its destination.
* `MethodDefinition.Relaid.code_eq`, `MethodDefinition.Relaid.instrumented_eq`: the instrumented
  bodies and methods are equal.
* `Instrumentation.onMethod_relaid`: such methods have the same outcome.
-/

namespace BuildDrift

open Instruction

/-! ### Targets by destination -/

namespace MethodDefinition

variable {m : MethodDefinition} (c : InstrumentConfig) (region : ExceptionRegion)

/-- Where a destination of the given body is found in the instrumented one. -/
def arrival (m : MethodDefinition) (c : InstrumentConfig) (region : ExceptionRegion) :
    Destination → Offset
  | .position j => m.groupOffset c region j
  | .codeEnd => .capped (weight (m.code c region))
  | .nowhere t => t

theorem Valid.codeEnd?_eq (hm : m.Valid) : m.operations.codeEnd? = some m.codeSize := by
  rw [Body.codeEnd?]
  cases hlast : m.operations.getLast? with
  | none => rw [codeSize, codeSizeOf, hlast]
  | some last => exact hm.endOffset?_eq hlast

/-- Where a target leads depends on its destination. -/
theorem relocate_eq_arrival (hm : m.Valid) (t : Offset) :
    m.relocate c region t = m.arrival c region (m.operations.destination t) := by
  have hrelocated := hm.relocated c region t
  generalize m.relocate c region t = t' at hrelocated
  cases hrelocated with
  | group hj ht => rw [hm.ordered.destination_eq_position_iff.2 ⟨_, hj, ht⟩, arrival]
  | codeEnd hnone ht =>
    rw [Body.destination_of_forall_ne hnone, hm.codeEnd?_eq, ht, if_pos rfl, arrival,
      codeSize_instrumented]
  | nowhere hnone ht =>
    rw [Body.destination_of_forall_ne hnone, hm.codeEnd?_eq, if_neg (by simpa using ht),
      arrival]

end MethodDefinition

/-! ### The pass -/

/-- What the pass looks at in an operation. -/
def Operation.gist (o : Operation) : OpKind × Option MethodRef × Option UInt16 :=
  (o.kind, o.method?, o.slot?)

theorem Operand.Alike.gist_eq {f g : Offset → Destination} {o p : Operation}
    (hkind : o.kind = p.kind) (h : Operand.Alike f g o.operand p.operand) :
    o.gist = p.gist := by
  rcases o with ⟨offset, kind, a⟩
  rcases p with ⟨offset', kind', b⟩
  cases hkind
  cases h <;> rfl

/-- Operations with the same gist behind operations with the same gist are treated alike. -/
theorem Progress.treat_congr (p : Progress) (inTry : Bool) {o₁ o₂ : Operation}
    {previous₁ previous₂ : Option Operation} (ho : o₁.gist = o₂.gist)
    (hprevious : previous₁.map Operation.gist = previous₂.map Operation.gist) :
    p.treat inTry previous₁ o₁ = p.treat inTry previous₂ o₂ := by
  rcases o₁ with ⟨offset₁, kind, a₁⟩
  rcases o₂ with ⟨offset₂, kind₂, a₂⟩
  simp only [Operation.gist, Prod.mk.injEq] at ho
  obtain ⟨rfl, -, hslot⟩ := ho
  rcases previous₁ with _ | ⟨offset₁', kind', a₁'⟩
  · rcases previous₂ with _ | q
    · rfl
    · exact absurd hprevious (by simp)
  · rcases previous₂ with _ | ⟨offset₂', kind₂', a₂'⟩
    · exact absurd hprevious (by simp)
    · simp only [Option.map_some, Option.some.injEq, Operation.gist, Prod.mk.injEq] at hprevious
      obtain ⟨rfl, hmethod, -⟩ := hprevious
      simp only [treat, treatStore, treatAfterCall, hslot, hmethod]
      rfl

/-! ### Two methods -/

namespace MethodDefinition

/-- Valid methods that agree in everything but the operations and the offsets of their single
regions, whose bodies are found identical, and whose regions start and stop at the same
positions. -/
structure Relaid (m₁ m₂ : MethodDefinition) : Prop where
  /-- The first method is valid. -/
  valid₁ : m₁.validate = .ok ()
  /-- The second method is valid. -/
  valid₂ : m₂.validate = .ok ()
  /-- They agree in everything but operations and regions. -/
  rest : { m₁ with operations := [], regions := [] } = { m₂ with operations := [], regions := [] }
  /-- The bodies are found identical. -/
  identical : Body.compare m₁.operations m₂.operations = .identical
  /-- There is one region each, and they agree in everything but their offsets. -/
  regions : ∃ r₁ r₂, m₁.regions = [r₁] ∧ m₂.regions = [r₂] ∧ r₁.kind = r₂.kind ∧
    r₁.caught = r₂.caught ∧
    (∀ k, m₁.operations.HasOffset k r₁.tryStart ↔ m₂.operations.HasOffset k r₂.tryStart) ∧
    (∀ k, m₁.operations.HasOffset k r₁.tryEnd ↔ m₂.operations.HasOffset k r₂.tryEnd) ∧
    (∀ k, m₁.operations.HasOffset k r₁.handlerStart ↔
      m₂.operations.HasOffset k r₂.handlerStart) ∧
    ∀ k, m₁.operations.HasOffset k r₁.handlerEnd ↔ m₂.operations.HasOffset k r₂.handlerEnd

/-- Two injectable methods whose bodies are alike and whose regions span the same positions. -/
structure Paired (m₁ m₂ : MethodDefinition) (r₁ r₂ : ExceptionRegion) : Prop where
  /-- The first method. -/
  injectable₁ : m₁.Injectable r₁
  /-- The second method. -/
  injectable₂ : m₂.Injectable r₂
  /-- They agree in everything but operations and regions. -/
  rest : { m₁ with operations := [], regions := [] } = { m₂ with operations := [], regions := [] }
  /-- The bodies are alike. -/
  alike : Body.Alike m₁.operations m₂.operations
  /-- The handlers are of the same kind. -/
  kind : r₁.kind = r₂.kind
  /-- The handlers catch the same exceptions. -/
  caught : r₁.caught = r₂.caught
  /-- The regions span the same positions. -/
  spans : ∃ a b a' b', r₁.Spans m₁.operations a b a' b' ∧ r₂.Spans m₂.operations a b a' b'

namespace Paired

variable {m₁ m₂ : MethodDefinition} {r₁ r₂ : ExceptionRegion} (h : Paired m₁ m₂ r₁ r₂)
  (c : InstrumentConfig)
include h

theorem exists_getElem? {j : ℕ} (hj : j < m₁.operations.length) :
    ∃ o₁ o₂, m₁.operations[j]? = some o₁ ∧ m₂.operations[j]? = some o₂ :=
  ⟨_, _, List.getElem?_eq_getElem hj, List.getElem?_eq_getElem (h.alike.length ▸ hj)⟩

section Position

variable {j : ℕ} {o₁ o₂ : Operation} (hj₁ : m₁.operations[j]? = some o₁)
  (hj₂ : m₂.operations[j]? = some o₂)
include hj₁ hj₂

theorem gist_eq : o₁.gist = o₂.gist :=
  (h.alike.operand j o₁ o₂ hj₁ hj₂).gist_eq (h.alike.kind j o₁ o₂ hj₁ hj₂)

theorem inTry_eq : r₁.inTry o₁.offset = r₂.inTry o₂.offset := by
  obtain ⟨a, b, a', b', hspans₁, hspans₂⟩ := h.spans
  rw [Bool.eq_iff_iff, hspans₁.inTry_iff h.injectable₁.valid.ordered hj₁,
    hspans₂.inTry_iff h.injectable₂.valid.ordered hj₂]

end Position

theorem gist_before? (j : ℕ) (hj : j ≤ m₁.operations.length) :
    (m₁.operations.before? j).map Operation.gist =
      (m₂.operations.before? j).map Operation.gist := by
  cases j with
  | zero => rw [Body.before?_zero, Body.before?_zero]
  | succ k =>
    obtain ⟨o₁, o₂, hget₁, hget₂⟩ := h.exists_getElem? hj
    rw [Body.before?_succ hj, Body.before?_succ (h.alike.length ▸ hj), hget₁, hget₂,
      Option.map_some, Option.map_some, h.gist_eq hget₁ hget₂]

/-- The pass finds the same in front of a position. -/
theorem found_eq {j : ℕ} (hj : j ≤ m₁.operations.length) :
    m₁.found c r₁ j = m₂.found c r₂ j := by
  induction j with
  | zero =>
    have hlocals := congrArg MethodDefinition.locals h.rest
    simp only at hlocals
    rw [found, found, Progress.before_zero, Progress.before_zero, hlocals]
  | succ j ih =>
    obtain ⟨o₁, o₂, hget₁, hget₂⟩ := h.exists_getElem? hj
    have ih := ih (Nat.le_of_lt hj)
    rw [found, found] at ih
    rw [found, found, Progress.before_succ _ _ hget₁, Progress.before_succ _ _ hget₂, ih,
      h.inTry_eq hget₁ hget₂, Progress.treat_congr _ _ (h.gist_eq hget₁ hget₂)
        (h.gist_before? j (Nat.le_of_lt hj))]

/-- Operations are treated alike. -/
theorem treatmentAt_eq (j : ℕ) : m₁.treatmentAt c r₁ j = m₂.treatmentAt c r₂ j := by
  by_cases hj : j < m₁.operations.length
  · obtain ⟨o₁, o₂, hget₁, hget₂⟩ := h.exists_getElem? hj
    have hfound := h.found_eq c (Nat.le_of_lt hj)
    rw [found, found] at hfound
    have ht₁ := Progress.getElem?_treatAll (fun o => r₁.inTry o.offset)
      { temporaries := { stem := c.temporaryPrefix, locals := m₁.locals } } hget₁
    have ht₂ := Progress.getElem?_treatAll (fun o => r₂.inTry o.offset)
      { temporaries := { stem := c.temporaryPrefix, locals := m₂.locals } } hget₂
    rw [treatmentAt_of_getElem? m₁ c r₁ ht₁, treatmentAt_of_getElem? m₂ c r₂ ht₂, hfound,
      h.inTry_eq hget₁ hget₂, Progress.treat_congr _ _ (h.gist_eq hget₁ hget₂)
        (h.gist_before? j (Nat.le_of_lt hj))]
  · have hnone₁ : (m₁.treatments c r₁).1[j]? = none :=
      List.getElem?_eq_none (by rw [length_treatments]; omega)
    have hnone₂ : (m₂.treatments c r₂).1[j]? = none :=
      List.getElem?_eq_none (by rw [length_treatments, ← h.alike.length]; omega)
    rw [treatmentAt, treatmentAt, hnone₁, hnone₂]

/-! ### The same body -/

section Position

variable {j : ℕ} {o₁ o₂ : Operation} (hj₁ : m₁.operations[j]? = some o₁)
  (hj₂ : m₂.operations[j]? = some o₂)
include hj₁ hj₂

theorem headAt_eq : m₁.headAt c r₁ j = m₂.headAt c r₂ j := by
  rw [MethodDefinition.headAt_eq c r₁ hj₁, MethodDefinition.headAt_eq c r₂ hj₂,
    h.alike.kind j o₁ o₂ hj₁ hj₂]

theorem tailAt_eq : m₁.tailAt c r₁ j = m₂.tailAt c r₂ j := by
  rw [MethodDefinition.tailAt_eq c r₁ hj₁, MethodDefinition.tailAt_eq c r₂ hj₂,
    h.treatmentAt_eq c, h.treatmentAt_eq c]

/-- Images are equal when equal destinations are reached at equal offsets. -/
theorem image_eq (t : Treatment) {f g : Offset → Offset}
    (hfg : ∀ s s', m₁.operations.destination s = m₂.operations.destination s' → f s = g s') :
    t.image f o₁ = t.image g o₂ := by
  have hkept : ((o₁.kind, o₁.operand.retarget f) : Instruction) =
      (o₂.kind, o₂.operand.retarget g) := by
    have hoperand := h.alike.operand j o₁ o₂ hj₁ hj₂
    rw [h.alike.kind j o₁ o₂ hj₁ hj₂]
    generalize o₁.operand = a at hoperand
    generalize o₂.operand = b at hoperand
    cases hoperand with
    | same hne => cases a <;> simp_all [Operand.retarget]
    | target hst => rw [Operand.retarget, Operand.retarget, hfg _ _ hst]
  cases t with
  | resultCall => rfl
  | _ => exact hkept

end Position


/-- Sizes of images do not depend on where targets lead. -/
theorem size_image {j : ℕ} {o₁ o₂ : Operation} (hj₁ : m₁.operations[j]? = some o₁)
    (hj₂ : m₂.operations[j]? = some o₂) (t : Treatment) (f g : Offset → Offset) :
    (t.image f o₁).size = (t.image g o₂).size := by
  have hsize (f : Offset → Offset) (o : Operation) :
      (t.image f o).size = (t.image (fun _ => 0) o).size := by
    rcases o with ⟨offset, kind, a⟩
    cases t <;> cases a <;> rfl
  rw [hsize f, hsize g, h.image_eq hj₁ hj₂ t fun _ _ _ => rfl]

/-- Groups begin at the same positions and offsets. -/
theorem groupStart_eq {j : ℕ} (hj : j ≤ m₁.operations.length) :
    m₁.groupStart c r₁ j = m₂.groupStart c r₂ j ∧
      weight ((m₁.code c r₁).take (m₁.groupStart c r₁ j)) =
        weight ((m₂.code c r₂).take (m₂.groupStart c r₂ j)) := by
  induction j with
  | zero =>
    rw [take_code_zero, take_code_zero, groupStart_zero, groupStart_zero]
    exact ⟨rfl, rfl⟩
  | succ j ih =>
    obtain ⟨hstart, hweight⟩ := ih (Nat.le_of_lt hj)
    obtain ⟨o₁, o₂, hget₁, hget₂⟩ := h.exists_getElem? hj
    have ht₁ := treatments_getElem c r₁ hget₁
    have ht₂ := treatments_getElem c r₂ hget₂
    have hhead := h.headAt_eq c hget₁ hget₂
    have htail := h.tailAt_eq c hget₁ hget₂
    constructor
    · rw [groupStart_succ c r₁ ht₁, groupStart_succ c r₂ ht₂, imageAt, imageAt, hstart, hhead,
        htail]
    · rw [take_code_succ c r₁ ht₁, take_code_succ c r₂ ht₂, weight_append, weight_append, hweight,
        weight_append, weight_append, weight_cons, weight_cons, hhead, htail, h.treatmentAt_eq c,
        h.size_image hget₁ hget₂]

theorem weight_code : weight (m₁.code c r₁) = weight (m₂.code c r₂) := by
  have hweight := (h.groupStart_eq c (Nat.le_refl _)).2
  rwa [h.alike.length, groupStart_length, ← h.alike.length, groupStart_length, List.take_length,
    List.take_length] at hweight

/-- Equal destinations are reached at equal offsets. -/
theorem relocate_eq {s t : Offset}
    (hst : m₁.operations.destination s = m₂.operations.destination t) :
    m₁.relocate c r₁ s = m₂.relocate c r₂ t := by
  rw [relocate_eq_arrival c r₁ h.injectable₁.valid, relocate_eq_arrival c r₂ h.injectable₂.valid]
  cases hdestination : m₁.operations.destination s with
  | position j =>
    obtain ⟨o, hj, -⟩ := h.injectable₁.valid.ordered.destination_eq_position_iff.1 hdestination
    have hle := Nat.le_of_lt (List.getElem?_eq_some_iff.1 hj).1
    rw [← hst, hdestination, arrival, arrival, groupOffset_eq, groupOffset_eq,
      (h.groupStart_eq c hle).2]
  | codeEnd => rw [← hst, hdestination, arrival, arrival, h.weight_code]
  | nowhere offset => rw [← hst, hdestination, arrival, arrival]

/-- The instrumented bodies hold the same instructions. -/
theorem code_eq : m₁.code c r₁ = m₂.code c r₂ := by
  have hprefix (j : ℕ) (hj : j ≤ m₁.operations.length) :
      (m₁.code c r₁).take (m₁.groupStart c r₁ j) = (m₂.code c r₂).take (m₂.groupStart c r₂ j) := by
    induction j with
    | zero =>
      have hname := congrArg MethodDefinition.declaringType h.rest
      simp only at hname
      rw [take_code_zero, take_code_zero, hname]
    | succ j ih =>
      obtain ⟨o₁, o₂, hget₁, hget₂⟩ := h.exists_getElem? hj
      rw [take_code_succ c r₁ (treatments_getElem c r₁ hget₁),
        take_code_succ c r₂ (treatments_getElem c r₂ hget₂), ih (Nat.le_of_lt hj),
        h.headAt_eq c hget₁ hget₂, h.tailAt_eq c hget₁ hget₂, h.treatmentAt_eq c,
        h.image_eq hget₁ hget₂ _ fun _ _ => h.relocate_eq c]
  have hcode := hprefix _ (Nat.le_refl _)
  rwa [h.alike.length, groupStart_length, ← h.alike.length, groupStart_length, List.take_length,
    List.take_length] at hcode

/-- The moved regions are equal. -/
theorem movedRegion_eq : m₁.movedRegion c r₁ = m₂.movedRegion c r₂ := by
  obtain ⟨a, b, a', b', hspans₁, hspans₂⟩ := h.spans
  have hstart {k : ℕ} {s t : Offset} (hs : m₁.operations.HasOffset k s)
      (ht : m₂.operations.HasOffset k t) :
      (Layout.ofDraft (m₁.opening c) (m₁.tiles c r₁)).start s =
        (Layout.ofDraft (m₂.opening c) (m₂.tiles c r₂)).start t := by
    obtain ⟨o₁, hget₁, rfl⟩ := hs
    obtain ⟨o₂, hget₂, rfl⟩ := ht
    have hk := (List.getElem?_eq_some_iff.1 hget₁).1
    rw [start_offset c r₁ h.injectable₁.valid.ordered hget₁,
      start_offset c r₂ h.injectable₂.valid.ordered hget₂,
      (h.groupStart_eq c (Nat.le_of_lt hk)).2]
  have hstop {k : ℕ} {s t : Offset} (hs : m₁.operations.HasOffset k s)
      (ht : m₂.operations.HasOffset k t) :
      (Layout.ofDraft (m₁.opening c) (m₁.tiles c r₁)).stop s =
        (Layout.ofDraft (m₂.opening c) (m₂.tiles c r₂)).stop t := by
    obtain ⟨o₁, hget₁, rfl⟩ := hs
    obtain ⟨o₂, hget₂, rfl⟩ := ht
    have hk : k + 1 ≤ m₁.operations.length := (List.getElem?_eq_some_iff.1 hget₁).1
    rw [stop_offset c r₁ h.injectable₁.valid.ordered hget₁,
      stop_offset c r₂ h.injectable₂.valid.ordered hget₂, (h.groupStart_eq c hk).1, h.code_eq c]
  rw [movedRegion, movedRegion, Layout.moveRegion, Layout.moveRegion,
    hstart hspans₁.tryFirst hspans₂.tryFirst, hstop hspans₁.tryLast hspans₂.tryLast,
    hstart hspans₁.handlerFirst hspans₂.handlerFirst,
    hstop hspans₁.handlerLast hspans₂.handlerLast, h.kind, h.caught]

/-- The instrumented methods are equal. -/
theorem instrumented_eq : m₁.instrumented c r₁ = m₂.instrumented c r₂ := by
  have hlocals : (m₁.treatments c r₁).2.temporaries.locals =
      (m₂.treatments c r₂).2.temporaries.locals := by
    have hfound := h.found_eq c (Nat.le_refl _)
    rw [found, Progress.before_length, h.alike.length, found, Progress.before_length] at hfound
    exact congrArg (fun p => p.temporaries.locals) hfound
  have hstack := congrArg MethodDefinition.maxStack h.rest
  simp only at hstack
  rw [instrumented, instrumented, h.code_eq c, h.movedRegion_eq c, hlocals, hstack]
  exact congrArg (fun m : MethodDefinition => { m with
    operations := Body.packed 0 (m₂.code c r₂)
    regions := [m₂.movedRegion c r₂]
    locals := (m₂.treatments c r₂).2.temporaries.locals
    maxStack := max m₂.maxStack c.leastMaxStack }) h.rest

/-- The passes are in step. -/
theorem forall₂_treatments :
    List.Forall₂ (fun e₁ e₂ => e₁.2 = e₂.2 ∧ e₁.1.kind = e₂.1.kind ∧
      ∃ k : ℕ, m₁.operations[k]? = some e₁.1 ∧ m₂.operations[k]? = some e₂.1)
      (m₁.treatments c r₁).1 (m₂.treatments c r₂).1 := by
  refine List.forall₂_iff_get.2 ⟨?_, fun k hk₁ hk₂ => ?_⟩
  · rw [length_treatments, length_treatments, h.alike.length]
  · rw [length_treatments] at hk₁
    obtain ⟨o₁, o₂, hget₁, hget₂⟩ := h.exists_getElem? hk₁
    obtain ⟨_, heq₁⟩ := List.getElem?_eq_some_iff.1 (treatments_getElem c r₁ hget₁)
    obtain ⟨_, heq₂⟩ := List.getElem?_eq_some_iff.1 (treatments_getElem c r₂ hget₂)
    rw [List.get_eq_getElem, List.get_eq_getElem, heq₁, heq₂]
    exact ⟨h.treatmentAt_eq c k, h.alike.kind k _ _ hget₁ hget₂, k, hget₁, hget₂⟩

end Paired

namespace Relaid

variable {m₁ m₂ : MethodDefinition} (h : Relaid m₁ m₂)
include h

/-- Either both regions start and stop at operations or neither does. -/
theorem paired_or_unaligned : ∃ r₁ r₂, m₁.regions = [r₁] ∧ m₂.regions = [r₂] ∧
    (Paired m₁ m₂ r₁ r₂ ∨
      (¬ ∀ bound ∈ r₁.bounds, ∃ o ∈ m₁.operations, o.offset = bound) ∧
        ¬ ∀ bound ∈ r₂.bounds, ∃ o ∈ m₂.operations, o.offset = bound) := by
  obtain ⟨r₁, r₂, hregions₁, hregions₂, hkind, hcaught, htryStart, htryEnd, hhandlerStart,
    hhandlerEnd⟩ := h.regions
  have hspans (a b a' b' : ℕ) :
      r₁.Spans m₁.operations a b a' b' ↔ r₂.Spans m₂.operations a b a' b' :=
    ⟨fun ⟨h₁, h₂, h₃, h₄⟩ => ⟨(htryStart a).1 h₁, (htryEnd b).1 h₂, (hhandlerStart a').1 h₃,
      (hhandlerEnd b').1 h₄⟩,
    fun ⟨h₁, h₂, h₃, h₄⟩ => ⟨(htryStart a).2 h₁, (htryEnd b).2 h₂, (hhandlerStart a').2 h₃,
      (hhandlerEnd b').2 h₄⟩⟩
  refine ⟨r₁, r₂, hregions₁, hregions₂, ?_⟩
  by_cases haligned : ∃ a b a' b', r₁.Spans m₁.operations a b a' b'
  · obtain ⟨a, b, a', b', hspans₁⟩ := haligned
    have hspans₂ := (hspans a b a' b').1 hspans₁
    exact .inl {
      injectable₁ := ⟨m₁.validate_eq_ok_iff.1 h.valid₁, hregions₁,
        (r₁.exists_spans_iff _).1 ⟨a, b, a', b', hspans₁⟩⟩
      injectable₂ := ⟨m₂.validate_eq_ok_iff.1 h.valid₂, hregions₂,
        (r₂.exists_spans_iff _).1 ⟨a, b, a', b', hspans₂⟩⟩
      rest := h.rest
      alike := (Body.compare_eq_identical_iff _ _).1 h.identical
      kind := hkind
      caught := hcaught
      spans := ⟨a, b, a', b', hspans₁, hspans₂⟩ }
  · refine .inr ⟨?_, ?_⟩
    · rwa [← r₁.exists_spans_iff]
    · simpa only [← r₂.exists_spans_iff, ← hspans] using haligned

end Relaid

end MethodDefinition

/-! ### The same outcome -/

namespace Tally

/-- Tallies of two bodies with equal counters, which name sites at the same positions for the same
reasons. -/
structure Alike (b₁ b₂ : Body) (t₁ t₂ : Tally) : Prop where
  /-- The counters are equal. -/
  counters : { t₁ with unrecorded := [] } = { t₂ with unrecorded := [] }
  /-- The same sites are not recorded. -/
  unrecorded : List.Forall₂ (fun s₁ s₂ => s₁.obstacle = s₂.obstacle ∧
    ∃ k, b₁.HasOffset k s₁.offset ∧ b₂.HasOffset k s₂.offset) t₁.unrecorded t₂.unrecorded

theorem Alike.add {b₁ b₂ : Body} {t₁ t₂ u₁ u₂ : Tally} (ht : Alike b₁ b₂ t₁ t₂)
    (hu : Alike b₁ b₂ u₁ u₂) : Alike b₁ b₂ (t₁.add u₁) (t₂.add u₂) where
  counters := by
    have hadd (t u : Tally) : { t.add u with unrecorded := [] } =
        ({ t with unrecorded := [] } : Tally).add { u with unrecorded := [] } := rfl
    rw [hadd, hadd, ht.counters, hu.counters]
  unrecorded := List.rel_append ht.unrecorded hu.unrecorded

theorem alike_ofTreated {b₁ b₂ : Body} {o₁ o₂ : Operation} (t : Treatment)
    (hkind : o₁.kind = o₂.kind) {k : ℕ} (hk₁ : b₁[k]? = some o₁) (hk₂ : b₂[k]? = some o₂) :
    Alike b₁ b₂ (ofTreated (o₁, t)) (ofTreated (o₂, t)) := by
  have hreturn : o₁.isReturn = o₂.isReturn := by rw [Operation.isReturn, hkind, Operation.isReturn]
  cases t with
  | unrecorded obstacle =>
    exact ⟨by rw [ofTreated, ofTreated, hreturn],
      .cons ⟨rfl, k, ⟨o₁, hk₁, rfl⟩, ⟨o₂, hk₂, rfl⟩⟩ .nil⟩
  | _ => exact ⟨by simp only [ofTreated, hreturn], .nil⟩

/-- Passes in step give tallies that are alike. -/
theorem alike_ofBody {b₁ b₂ : Body} {treated₁ treated₂ : List (Operation × Treatment)}
    (h : List.Forall₂ (fun e₁ e₂ => e₁.2 = e₂.2 ∧ e₁.1.kind = e₂.1.kind ∧
      ∃ k : ℕ, b₁[k]? = some e₁.1 ∧ b₂[k]? = some e₂.1) treated₁ treated₂) :
    Alike b₁ b₂ (ofBody treated₁) (ofBody treated₂) := by
  induction h with
  | nil => exact ⟨rfl, .nil⟩
  | @cons e₁ e₂ _ _ he _ ih =>
    obtain ⟨o₁, t₁⟩ := e₁
    obtain ⟨o₂, t₂⟩ := e₂
    obtain ⟨rfl, hkind, k, hk₁, hk₂⟩ := he
    exact (alike_ofTreated t₁ hkind hk₁ hk₂).add ih

end Tally

/-- The same outcome for two methods. -/
inductive Instrumented.Alike (m₁ m₂ : MethodDefinition) : Instrumented → Instrumented → Prop
  /-- The instrumented methods are equal, and the tallies are alike. -/
  | injected {m' : MethodDefinition} {t₁ t₂ : Tally} {logs₁ logs₂ : List LogRecord}
      (h : Tally.Alike m₁.operations m₂.operations t₁ t₂) :
      Alike m₁ m₂ ⟨m', .injected t₁, logs₁⟩ ⟨m', .injected t₂, logs₂⟩
  /-- Both methods have a bound that is no operation, and are returned as they are. -/
  | unaligned {r₁ r₂ : ExceptionRegion} {logs₁ logs₂ : List LogRecord}
      (hregions₁ : m₁.regions = [r₁]) (hregions₂ : m₂.regions = [r₂])
      (h₁ : ¬ ∀ bound ∈ r₁.bounds, ∃ o ∈ m₁.operations, o.offset = bound)
      (h₂ : ¬ ∀ bound ∈ r₂.bounds, ∃ o ∈ m₂.operations, o.offset = bound) :
      Alike m₁ m₂ ⟨m₁, .passed .unalignedRegion, logs₁⟩ ⟨m₂, .passed .unalignedRegion, logs₂⟩

namespace Instrumentation

/-- Methods that differ only in where their operations stand have the same outcome. -/
theorem onMethod_relaid (i : Instrumentation) {m₁ m₂ : MethodDefinition}
    (h : MethodDefinition.Relaid m₁ m₂) : ∃ x₁ x₂, i.onMethod m₁ = .ok x₁ ∧
      i.onMethod m₂ = .ok x₂ ∧ Instrumented.Alike m₁ m₂ x₁ x₂ := by
  obtain ⟨r₁, r₂, hregions₁, hregions₂, hpaired | ⟨hunaligned₁, hunaligned₂⟩⟩ :=
    h.paired_or_unaligned
  · obtain ⟨logs₁, hok₁⟩ := i.onMethod_eq_injected hpaired.injectable₁
    obtain ⟨logs₂, hok₂⟩ := i.onMethod_eq_injected hpaired.injectable₂
    rw [← hpaired.instrumented_eq i.config] at hok₂
    exact ⟨_, _, hok₁, hok₂,
      .injected (Tally.alike_ofBody (hpaired.forall₂_treatments i.config))⟩
  · exact ⟨_, _, i.onMethod_eq_unaligned (m₁.validate_eq_ok_iff.1 h.valid₁) hregions₁ hunaligned₁,
      i.onMethod_eq_unaligned (m₂.validate_eq_ok_iff.1 h.valid₂) hregions₂ hunaligned₂,
      .unaligned hregions₁ hregions₂ hunaligned₁ hunaligned₂⟩

end Instrumentation

/-- The example laid out with different spacings. -/
theorem MethodDefinition.relaid_sample : Relaid (sample 6) (sample 8) := by
  have hordered₁ : (sample 6).operations.Ordered := injectable_sample.valid.ordered
  have hordered₂ : (sample 8).operations.Ordered :=
    (Body.checkOrder_eq_ok_iff _).1 (by rfl)
  have hoffset₁ : (sample 6).operations.HasOffset 10 (10 * 6) := ⟨_, rfl, rfl⟩
  have hoffset₂ : (sample 8).operations.HasOffset 10 (10 * 8) := ⟨_, rfl, rfl⟩
  have htarget : (sample 6).operations.destination (10 * 6) =
      (sample 8).operations.destination (10 * 8) := by
    rw [hordered₁.destination_eq_position_iff.2 hoffset₁,
      hordered₂.destination_eq_position_iff.2 hoffset₂]
  have hbound (k : ℕ) {s t : Offset} (hs : (sample 6).operations.HasOffset k s)
      (ht : (sample 8).operations.HasOffset k t) (j : ℕ) :
      (sample 6).operations.HasOffset j s ↔ (sample 8).operations.HasOffset j t := by
    rw [hordered₁.hasOffset_iff hs, hordered₂.hasOffset_iff ht]
  have hlength {k : ℕ} {o : Operation} (hk : (sample 6).operations[k]? = some o) : k < 11 :=
    (List.getElem?_eq_some_iff.1 hk).1
  refine ⟨rfl, rfl, rfl, (Body.compare_eq_identical_iff _ _).2 ⟨rfl, ?_, ?_⟩,
    sampleRegion 6, sampleRegion 8, rfl, rfl, rfl, rfl, hbound 0 ⟨_, rfl, rfl⟩ ⟨_, rfl, rfl⟩,
    hbound 7 ⟨_, rfl, rfl⟩ ⟨_, rfl, rfl⟩, hbound 8 ⟨_, rfl, rfl⟩ ⟨_, rfl, rfl⟩,
    hbound 9 ⟨_, rfl, rfl⟩ ⟨_, rfl, rfl⟩⟩
  · intro k o p ho hp
    have hk := hlength ho
    interval_cases k <;> cases ho <;> cases hp <;> rfl
  · intro k o p ho hp
    have hk := hlength ho
    interval_cases k <;> cases ho <;> cases hp <;>
      first | exact .same (by simp) | exact .target htarget

/-- The example has the same outcome with different spacings. -/
theorem Instrumentation.onMethod_sample_relaid :
    MethodDefinition.Relaid (.sample 6) (.sample 8) ∧
      ∃ x₁ x₂, ({} : Instrumentation).onMethod (.sample 6) = .ok x₁ ∧
        ({} : Instrumentation).onMethod (.sample 8) = .ok x₂ ∧
        Instrumented.Alike (.sample 6) (.sample 8) x₁ x₂ :=
  ⟨MethodDefinition.relaid_sample,
    Instrumentation.onMethod_relaid {} MethodDefinition.relaid_sample⟩

end BuildDrift
