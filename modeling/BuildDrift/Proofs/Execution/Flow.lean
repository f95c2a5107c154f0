import BuildDrift.Proofs.Execution.Machine

/-!
# Control flow

Where control can go in a body, whatever its instructions mean. From an operation it goes to the
one behind it, unless the operation returns, to where the target of the operation lands, or to the
handler of a region that protects the operation. Whether an operation jumps, goes on or raises an
exception is left open, so there may be more paths than runs; but the positions that a run of any
machine goes through are a path.

## Main definitions

* `MethodDefinition.Flow`: control can go from one position to another.
* `MethodDefinition.Path`: the positions of a path from the first operation on.
* `MethodDefinition.ReturnsAt`: the operation at a position returns.
* `MethodDefinition.Closed`: every target leads somewhere.

## Main results

* `MethodDefinition.Path.previous`: how a position other than the first is reached.
* `Machine.path_of_run`: runs go along paths.
-/

namespace BuildDrift

namespace MethodDefinition

/-- Control can go from one position to another. Exceptions are raised at some positions only;
there, every operation that a region protects may raise one. -/
inductive Flow (m : MethodDefinition) (raises : ℕ → Prop) (p : ℕ) : ℕ → Prop
  /-- To the operation behind, unless the operation returns. -/
  | next {o : Operation} (ho : m.operations[p]? = some o) (hkind : o.kind ≠ .ret) :
      Flow m raises p (p + 1)
  /-- To where a target lands. -/
  | jump {o : Operation} {t : Offset} {q : ℕ} (ho : m.operations[p]? = some o)
      (ht : o.operand = .target t) (hq : m.landing? t = some q) : Flow m raises p q
  /-- To the first operation of a handler. -/
  | handler {o : Operation} {r : ExceptionRegion} {q : ℕ} (ho : m.operations[p]? = some o)
      (hraises : raises p) (hr : r ∈ m.regions) (htry : r.inTry o.offset = true)
      (hq : m.landing? r.handlerStart = some q) : Flow m raises p q

/-- The positions, one after the other, of a path from the first operation on. -/
structure Path (m : MethodDefinition) (raises : ℕ → Prop) (path : List ℕ) : Prop where
  /-- The path begins at the first operation. -/
  start : path[0]? = some 0
  /-- Control can go from every position to the one after it. -/
  flow : ∀ k p q : ℕ, path[k]? = some p → path[k + 1]? = some q → m.Flow raises p q

/-- The operation at a position returns. -/
def ReturnsAt (m : MethodDefinition) (p : ℕ) : Prop :=
  ∃ o, m.operations[p]? = some o ∧ o.kind = .ret

/-- Targets are operations or the end of the body. -/
def Closed (m : MethodDefinition) : Prop :=
  ∀ o ∈ m.operations, ∀ t, o.operand = .target t →
    (∃ p ∈ m.operations, p.offset = t) ∨ t = m.codeSize

variable {m : MethodDefinition} {raises : ℕ → Prop} {path : List ℕ}

/-- A position other than the first is reached from the position before it on the path. -/
theorem Path.previous (h : m.Path raises path) {k q : ℕ} (hk : path[k]? = some q) (hq : q ≠ 0) :
    ∃ l p, k = l + 1 ∧ path[l]? = some p ∧ m.Flow raises p q := by
  cases k with
  | zero =>
    rw [h.start, Option.some.injEq] at hk
    exact absurd hk.symm hq
  | succ l =>
    have hl : l < path.length := Nat.lt_of_succ_lt (List.getElem?_eq_some_iff.1 hk).1
    have hget : path[l]? = some path[l] := List.getElem?_eq_getElem hl
    exact ⟨l, path[l], rfl, hget, h.flow l _ q hget hk⟩

/-- Falling through up to the first return is a path. -/
theorem path_range {q : ℕ} (hq : q < m.operations.length) (hreturn : ∀ p < q, ¬ m.ReturnsAt p) :
    m.Path raises (List.range (q + 1)) where
  start := List.getElem?_range (Nat.succ_pos q)
  flow k p p' hp hp' := by
    have hk : k + 1 < q + 1 := by simpa using (List.getElem?_eq_some_iff.1 hp').1
    rw [List.getElem?_range (by omega), Option.some.injEq] at hp hp'
    subst hp hp'
    have hget : m.operations[k]? = some m.operations[k] := List.getElem?_eq_getElem (by omega)
    exact .next hget fun hkind => hreturn k (by omega) ⟨_, hget, hkind⟩

/-- A jump lands at an operation or at the end of the body. -/
theorem le_of_landing? {t : Offset} {q : ℕ} (h : m.landing? t = some q) :
    q ≤ m.operations.length := by
  rw [landing?] at h
  cases hfind : m.operations.findIdx? fun o => o.offset = t with
  | some p =>
    rw [hfind, Option.some.injEq] at h
    exact h ▸ Nat.le_of_lt (List.findIdx?_eq_some_iff_getElem.1 hfind).1
  | none =>
    rw [hfind] at h
    simp only at h
    split_ifs at h
    exact Nat.le_of_eq (Option.some.inj h).symm

end MethodDefinition

/-! ### Runs -/

namespace Machine

variable {V H X : Type*} {n : ℕ} {M : Machine V H X n} {m : MethodDefinition} {raises : ℕ → Prop}

/-- A step that does not end the run goes along an edge. -/
theorem flow_of_step {p q : ℕ} {f g : Frame V H}
    (hraises : ∀ o x f', m.operations[p]? = some o →
      M.perform m.locals.length o.instruction f = .raise x f' → raises p)
    (h : M.step m (.running p f) = .running q g) : m.Flow raises p q := by
  cases ho : m.operations[p]? with
  | none => simp [step, ho] at h
  | some o =>
    rw [step_of_getElem? f ho] at h
    cases heffect : M.perform m.locals.length o.instruction f with
    | next f' =>
      rw [heffect, proceed, State.running.injEq] at h
      obtain ⟨rfl, rfl⟩ := h
      refine .next ho fun hkind => ?_
      rw [Operation.instruction, hkind] at heffect
      exact absurd heffect (by simp [perform])
    | jump f' =>
      rw [heffect, proceed] at h
      cases hlanding : o.target?.bind m.landing? with
      | none => simp [hlanding] at h
      | some q' =>
        simp only [hlanding, State.running.injEq] at h
        obtain ⟨rfl, rfl⟩ := h
        obtain ⟨t, ht, hq⟩ := Option.bind_eq_some_iff.1 hlanding
        refine .jump ho ?_ hq
        rw [Operation.target?] at ht
        cases hoperand : o.operand <;> simp_all
    | raise x f' =>
      rw [heffect, proceed] at h
      cases hhandler : M.handler? m o x with
      | none => simp [hhandler] at h
      | some taken =>
        obtain ⟨stack, start⟩ := taken
        simp only [hhandler] at h
        cases hlanding : m.landing? start with
        | none => simp [hlanding] at h
        | some q' =>
          simp only [hlanding, State.running.injEq] at h
          obtain ⟨rfl, rfl⟩ := h
          obtain ⟨r, hr, htaken⟩ := List.exists_of_findSome?_eq_some hhandler
          split_ifs at htaken with htry
          obtain ⟨s, -, hs⟩ := Option.map_eq_some_iff.1 htaken
          cases hs
          exact .handler ho (hraises o x f' ho heffect) hr htry hlanding
    | finish value f' => simp [heffect, proceed] at h
    | fault => simp [heffect, proceed] at h

/-- The positions that a run goes through are a path. -/
theorem path_of_run
    (hraises : ∀ p o f x f', m.operations[p]? = some o →
      M.perform m.locals.length o.instruction f = .raise x f' → raises p)
    {f : Frame V H} {position : ℕ → ℕ} {steps : ℕ}
    (hrun : ∀ k ≤ steps, ∃ g, M.run m k (.running 0 f) = .running (position k) g) :
    m.Path raises ((List.range (steps + 1)).map position) where
  start := by
    obtain ⟨g, hg⟩ := hrun 0 (Nat.zero_le steps)
    rw [run_zero, State.running.injEq] at hg
    simp [← hg.1]
  flow k p q hp hq := by
    have hk : k + 1 ≤ steps := by
      have hlt := (List.getElem?_eq_some_iff.1 hq).1
      rw [List.length_map, List.length_range] at hlt
      omega
    rw [List.getElem?_map, List.getElem?_range (by omega), Option.map_some,
      Option.some.injEq] at hp hq
    obtain ⟨g, hg⟩ := hrun k (by omega)
    obtain ⟨g', hg'⟩ := hrun (k + 1) hk
    rw [run_succ', hg] at hg'
    exact hp ▸ hq ▸ flow_of_step (fun o x f' => hraises _ o g x f') hg'

end Machine

end BuildDrift
