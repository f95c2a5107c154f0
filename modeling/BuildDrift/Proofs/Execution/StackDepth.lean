import BuildDrift.Proofs.Execution.Machine

/-!
# Stack depths

How many values are on the evaluation stack in front of the operations of a body. What an operation
takes from the stack and puts on it follows from its kind and operand, except for branches and
operations of other kinds, for which a model says it. Depths fit a body if they are the same
along every edge, from an operation to the one behind it and to where its target lands.

## Main definitions

* `StackModel`: what is left open, and `StackModel.after?`: the depth behind an instruction.
* `StackModel.Fits`: depths that fit a body, and `StackModel.Within`: depths that are bounded.
* `StackModel.line?`, `StackModel.Stays`: the depth behind a line of instructions, and a bound on
  all depths along it.

## Main results

* `StackModel.Fits.line?_eq`: depths that fit a body follow its lines.
* `StackModel.stays_iff`: bounds along a line, instruction by instruction.
-/

namespace BuildDrift

/-- What the kind of an operation does not tell about the evaluation stack. -/
structure StackModel where
  /-- The depth behind an instruction; `none` if there are too few values on the stack. -/
  other? : OpKind → Operand → ℕ → Option ℕ
  /-- Whether control can go on behind an operation. -/
  passes : OpKind → Bool

namespace StackModel

/-- The depth after some values have been taken from the stack and some have been put on it. -/
def exchange (pops pushes depth : ℕ) : Option ℕ :=
  if pops ≤ depth then some (depth - pops + pushes) else none

/-- The depth behind an instruction. Where its target leads does not matter. -/
def after? (M : StackModel) (i : Instruction) (depth : ℕ) : Option ℕ :=
  match i with
  | (.call, .method callee) | (.callVirt, .method callee) =>
    exchange callee.stackPops (!callee.isVoid).toNat depth
  | (.newObj, .method callee) => exchange callee.parameters.length 1 depth
  | (.loadLocal, _) | (.loadString, _) => exchange 0 1 depth
  | (.storeLocal, _) | (.pop, _) => exchange 1 0 depth
  | (.box, _) => exchange 1 1 depth
  | (.leave, _) => some 0
  | (kind, a) => M.other? kind (a.retarget fun _ => 0) depth

/-- Whether control can go on behind an operation of a kind. -/
def continues (M : StackModel) : OpKind → Bool
  | .ret | .leave => false
  | .branch opcode => M.passes (.branch opcode)
  | .other opcode => M.passes (.other opcode)
  | _ => true

/-- Depths in front of the operations of a body that are the same along every edge. -/
structure Fits (M : StackModel) (m : MethodDefinition) (depth : ℕ → ℕ) : Prop where
  /-- The stack is empty at first. -/
  entry : depth 0 = 0
  /-- The depth behind an operation is the depth wherever control goes. -/
  edges : ∀ p o, m.operations[p]? = some o → ∃ d, M.after? o.instruction (depth p) = some d ∧
    (M.continues o.kind = true → p + 1 < m.operations.length → depth (p + 1) = d) ∧
    ∀ t q, o.operand = .target t → m.landing? t = some q → q < m.operations.length → depth q = d

/-- In front of every operation, and behind it, the depth is bounded. -/
def Within (M : StackModel) (m : MethodDefinition) (bound : ℕ) (depth : ℕ → ℕ) : Prop :=
  ∀ p o, m.operations[p]? = some o →
    depth p ≤ bound ∧ ∀ d, M.after? o.instruction (depth p) = some d → d ≤ bound

/-! ### Checking depths -/

section Check

variable (M : StackModel) (m : MethodDefinition) (depth : ℕ → ℕ) (bound : ℕ)

/-- Whether the depth behind an operation is the depth wherever control goes. -/
def fitsAt (p : ℕ) (o : Operation) : Bool :=
  (M.after? o.instruction (depth p)).any fun d =>
    (M.continues o.kind → p + 1 < m.operations.length → depth (p + 1) = d) ∧
      (o.target?.bind m.landing?).all fun q => q < m.operations.length → depth q = d

theorem fitsAt_iff {p : ℕ} {o : Operation} : M.fitsAt m depth p o = true ↔
    ∃ d, M.after? o.instruction (depth p) = some d ∧
      (M.continues o.kind = true → p + 1 < m.operations.length → depth (p + 1) = d) ∧
      ∀ t q, o.operand = .target t → m.landing? t = some q → q < m.operations.length →
        depth q = d := by
  have htarget (t : Offset) : o.operand = .target t ↔ o.target? = some t := by
    rw [Operation.target?]
    cases o.operand <;> simp
  simp only [fitsAt, htarget, Option.any_eq_true, Option.all_eq_true, Option.bind_eq_some_iff,
    decide_eq_true_iff]
  refine exists_congr fun d => and_congr_right fun _ => and_congr_right fun _ => ?_
  exact ⟨fun h t q ht hq => h q ⟨t, ht, hq⟩, fun h q ⟨t, ht, hq⟩ => h t q ht hq⟩

instance : Decidable (M.Fits m depth) :=
  decidable_of_iff (depth 0 = 0 ∧ ∀ x ∈ m.operations.zipIdx, M.fitsAt m depth x.2 x.1 = true) (by
    simp only [fitsAt_iff, Prod.forall, List.mem_zipIdx_iff_getElem?]
    exact ⟨fun h => ⟨h.1, fun p o => h.2 o p⟩, fun h => ⟨h.entry, fun o p => h.edges p o⟩⟩)

instance : Decidable (M.Within m bound depth) :=
  decidable_of_iff (∀ x ∈ m.operations.zipIdx, depth x.2 ≤ bound ∧
      (M.after? x.1.instruction (depth x.2)).all fun d => d ≤ bound) (by
    simp only [Prod.forall, List.mem_zipIdx_iff_getElem?, Option.all_eq_true, decide_eq_true_iff]
    exact forall_comm)

end Check

/-! ### Lines of instructions -/

/-- The depth behind a line of instructions. -/
def line? (M : StackModel) : List Instruction → ℕ → Option ℕ
  | [], d => some d
  | i :: l, d => (M.after? i d).bind (M.line? l)

/-- Along a line of instructions, the depth is bounded. -/
def Stays (M : StackModel) (bound : ℕ) : List Instruction → ℕ → Prop
  | [], d => d ≤ bound
  | i :: l, d => d ≤ bound ∧ ∀ e, M.after? i d = some e → M.Stays bound l e

variable {M : StackModel} {bound d : ℕ} {l r : List Instruction}

theorem exchange_eq_some_iff {pops pushes e : ℕ} :
    exchange pops pushes d = some e ↔ pops ≤ d ∧ d - pops + pushes = e := by
  rw [exchange, Option.ite_none_right_eq_some, Option.some.injEq]

/-- A store or a pop takes one value from the stack. -/
theorem add_one_of_after? {kind : OpKind} {a : Operand} {e : ℕ}
    (hkind : kind = .storeLocal ∨ kind = .pop) (h : M.after? (kind, a) d = some e) : e + 1 = d := by
  have hexchange : exchange 1 0 d = some e := by
    rcases hkind with rfl | rfl <;> exact h
  rw [exchange_eq_some_iff] at hexchange
  omega

theorem after?_retarget (kind : OpKind) (a : Operand) (f : Offset → Offset) :
    M.after? (kind, a.retarget f) d = M.after? (kind, a) d := by
  cases kind <;> cases a <;> rfl

@[simp] theorem line?_singleton (i : Instruction) : M.line? [i] d = M.after? i d := by
  cases h : M.after? i d <;> simp [line?, h]

theorem line?_append (l r : List Instruction) (d : ℕ) :
    M.line? (l ++ r) d = (M.line? l d).bind (M.line? r) := by
  induction l generalizing d with
  | nil => rfl
  | cons i l ih =>
    rw [List.cons_append, line?, line?, Option.bind_assoc]
    exact Option.bind_congr fun e _ => ih e

/-- A line that is gone through is gone through up to any of its instructions. -/
theorem exists_line?_take {e : ℕ} (h : M.line? l d = some e) (k : ℕ) :
    ∃ e', M.line? (l.take k) d = some e' := by
  rw [← List.take_append_drop k l, line?_append, Option.bind_eq_some_iff] at h
  obtain ⟨e', he', -⟩ := h
  exact ⟨e', he'⟩

theorem line?_take_succ {k : ℕ} {i : Instruction} (hk : l[k]? = some i) :
    M.line? (l.take (k + 1)) d = (M.line? (l.take k) d).bind (M.after? i) := by
  rw [List.take_add_one, hk, Option.toList_some, line?_append]
  exact Option.bind_congr fun e _ => line?_singleton i

theorem stays_append : M.Stays bound (l ++ r) d ↔
    M.Stays bound l d ∧ ∀ e, M.line? l d = some e → M.Stays bound r e := by
  induction l generalizing d with
  | nil =>
    refine ⟨fun h => ⟨?_, fun e he => ?_⟩, fun h => h.2 d rfl⟩
    · cases r with
      | nil => exact h
      | cons i r => exact h.1
    · cases he
      exact h
  | cons i l ih =>
    simp only [List.cons_append, Stays, ih, line?, Option.bind_eq_some_iff]
    constructor
    · rintro ⟨hd, h⟩
      refine ⟨⟨hd, fun e he => (h e he).1⟩, ?_⟩
      rintro e ⟨e', he', he⟩
      exact (h e' he').2 e he
    · rintro ⟨⟨hd, h⟩, h'⟩
      exact ⟨hd, fun e he => ⟨h e he, fun e' he' => h' e' ⟨e, he, he'⟩⟩⟩

/-- Bounds along a line are bounds in front of its instructions and behind them. -/
theorem stays_iff : M.Stays bound l d ↔ d ≤ bound ∧ ∀ k i e, l[k]? = some i →
    M.line? (l.take k) d = some e → e ≤ bound ∧ ∀ e', M.after? i e = some e' → e' ≤ bound := by
  induction l generalizing d with
  | nil => simp [Stays]
  | cons i l ih =>
    simp only [Stays, ih]
    refine and_congr_right fun hd => ⟨fun h k => ?_, fun h e he => ?_⟩
    · cases k with
      | zero =>
        rintro _ _ ⟨⟩ ⟨⟩
        exact ⟨hd, fun e' he' => (h e' he').1⟩
      | succ k =>
        intro i' e hi he
        rw [List.take_succ_cons, line?, Option.bind_eq_some_iff] at he
        obtain ⟨e', he', he⟩ := he
        exact (h e' he').2 k i' e hi he
    · refine ⟨(h 0 i d rfl rfl).2 e he, fun k i' e' hi he' => h (k + 1) i' e' hi ?_⟩
      rw [List.take_succ_cons, line?, he]
      exact he'

/-- Depths that fit a body follow its lines, as long as control goes on. -/
theorem Fits.line?_eq {m : MethodDefinition} {depth : ℕ → ℕ} (h : M.Fits m depth) {p k : ℕ}
    (hk : p + k < m.operations.length)
    (hcontinues : ∀ q o, p ≤ q → q < p + k → m.operations[q]? = some o →
      M.continues o.kind = true) :
    M.line? ((m.operations.instructions.drop p).take k) (depth p) = some (depth (p + k)) := by
  induction k with
  | zero => rfl
  | succ k ih =>
    have hget : m.operations[p + k]? = some m.operations[p + k] :=
      List.getElem?_eq_getElem (by omega)
    have hinstruction : (m.operations.instructions.drop p)[k]? =
        some m.operations[p + k].instruction := by
      rw [List.getElem?_drop, Body.instructions, List.getElem?_map, hget]
      rfl
    obtain ⟨d, hd, hnext, -⟩ := h.edges _ _ hget
    rw [line?_take_succ hinstruction, ih (by omega) fun q o hp hq => hcontinues q o hp (by omega),
      Option.bind_some, hd, ← hnext (hcontinues _ _ (by omega) (by omega) hget) (by omega)]
    rfl

end StackModel

end BuildDrift
