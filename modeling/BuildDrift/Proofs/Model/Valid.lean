import BuildDrift.Model.Method
import BuildDrift.Proofs.Code.Ordered

/-!
# Valid methods

The rules that a body keeps, as properties of the method: the operations are ordered, the last one
ends in range, no range of a region ends before it starts, and locals are numbered by position.

## Main definitions

* `MethodDefinition.Valid`: the rules of bodies.

## Main results

* `MethodDefinition.validate_eq_ok_iff`: what is checked are these rules.
-/

namespace BuildDrift

/-- Two checks one after the other succeed when both do. -/
private theorem check_bind_eq_ok_iff {ε : Type} (x y : Except ε Unit) :
    (x >>= fun _ => y) = .ok () ↔ x = .ok () ∧ y = .ok () := by
  rcases x with e | ⟨⟩ <;> simp [bind, Except.bind]

/-- A check of every element succeeds when every element passes. -/
private theorem forM_eq_ok_iff {α ε : Type} {f : α → Except ε Unit} (l : List α) :
    l.forM f = .ok () ↔ ∀ a ∈ l, f a = .ok () := by
  rw [List.forM_eq_forM]
  induction l with
  | nil => simp [pure, Except.pure]
  | cons a l ih => rw [List.forM_cons, check_bind_eq_ok_iff, ih, List.forall_mem_cons]

private theorem mapError_eq_ok_iff {ε δ : Type} {f : ε → δ} (x : Except ε Unit) :
    x.mapError f = .ok () ↔ x = .ok () := by
  rcases x with e | ⟨⟩ <;> simp [Except.mapError]

theorem ExceptionRegion.validate_eq_ok_iff (r : ExceptionRegion) :
    r.validate = .ok () ↔ r.tryStart ≤ r.tryEnd ∧ r.handlerStart ≤ r.handlerEnd := by
  rw [validate, ← UInt32.not_lt, ← UInt32.not_lt]
  split_ifs <;> simp [*]

namespace MethodDefinition

/-- A method keeps the rules of bodies. -/
structure Valid (m : MethodDefinition) : Prop where
  /-- Offsets strictly increase. -/
  ordered : m.operations.Ordered
  /-- The last operation ends in range. -/
  ends : ∀ o, m.operations.getLast? = some o → o.offset.toNat + o.size < UInt32.size
  /-- Neither range of a region ends before it starts. -/
  regions : ∀ r ∈ m.regions, r.tryStart ≤ r.tryEnd ∧ r.handlerStart ≤ r.handlerEnd
  /-- Locals are numbered by their position. -/
  locals : ∀ (k : ℕ) v, m.locals[k]? = some v → v.index.toNat = k

theorem validateEnd_eq_ok_iff (m : MethodDefinition) : m.validateEnd = .ok () ↔
    ∀ o, m.operations.getLast? = some o → o.offset.toNat + o.size < UInt32.size := by
  rw [validateEnd]
  cases m.operations.getLast? with
  | none => simp
  | some last =>
    simp only [Operation.endOffset?, Offset.advance?]
    split_ifs <;> simp_all

theorem validateLocals_eq_ok_iff (m : MethodDefinition) : m.validateLocals = .ok () ↔
    ∀ (k : ℕ) v, m.locals[k]? = some v → v.index.toNat = k := by
  rw [validateLocals, forM_eq_ok_iff]
  constructor
  · intro h k v hk
    have := h (v, k) (List.mem_zipIdx_iff_getElem?.2 hk)
    simpa using this
  · rintro h ⟨v, k⟩ hmem
    simpa using h k v (List.mem_zipIdx_iff_getElem?.1 hmem)

/-- What is checked are the rules of bodies. -/
theorem validate_eq_ok_iff (m : MethodDefinition) : m.validate = .ok () ↔ m.Valid := by
  have hregions : m.validateRegions = .ok () ↔
      ∀ r ∈ m.regions, r.tryStart ≤ r.tryEnd ∧ r.handlerStart ≤ r.handlerEnd := by
    rw [validateRegions, forM_eq_ok_iff]
    refine forall₂_congr fun r _ => ?_
    rw [mapError_eq_ok_iff, r.validate_eq_ok_iff]
  rw [validate, check_bind_eq_ok_iff, check_bind_eq_ok_iff, check_bind_eq_ok_iff,
    mapError_eq_ok_iff, Body.checkOrder_eq_ok_iff, m.validateEnd_eq_ok_iff, hregions,
    m.validateLocals_eq_ok_iff]
  exact ⟨fun ⟨h₁, h₂, h₃, h₄⟩ => ⟨h₁, h₂, h₃, h₄⟩, fun h => ⟨h.1, h.2, h.3, h.4⟩⟩

end MethodDefinition

end BuildDrift
