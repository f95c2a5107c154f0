import BuildDrift.Proofs.Instrumentation.Sites

/-!
# Instrumenting only inserts

The operations of a given body reappear in the instrumented body, in order, each within its group.
They keep what they do and on what they act; targets go to groups, and a pop whose call is recorded
with its result becomes a store into a variable of its own. Everything else in the instrumented
body is the start of the test, the end of the test in front of returns, and the records.

## Main definitions

* `Operand.Carried`: what becomes of an operand.
* `MethodDefinition.Insertion`: what stands where in a method with records injected.

## Main results

* `Instrumentation.onMethod_inserts`: instrumenting a method is such an insertion.
-/

namespace BuildDrift

open Instruction

/-- The instructions of a body from a position up to another one. -/
def Body.between (body : Body) (p q : ℕ) : List Instruction :=
  (body.instructions.drop p).take (q - p)

/-- What becomes of an operand when the group of the operation at position `j` begins at position
`start j`. -/
inductive Operand.Carried (m m' : MethodDefinition) (start : ℕ → ℕ) : Operand → Operand → Prop
  /-- An operand that is no target is kept. -/
  | same {a : Operand} (h : ∀ t, a ≠ .target t) : Carried m m' start a a
  /-- A target at an operation goes to the first operation of its group. -/
  | group {j : ℕ} {o o' : Operation} (hj : m.operations[j]? = some o)
      (hstart : m'.operations[start j]? = some o') :
      Carried m m' start (.target o.offset) (.target o'.offset)
  /-- A target at the end goes to the end. -/
  | codeEnd : Carried m m' start (.target m.codeSize) (.target m'.codeSize)
  /-- Any other target is kept. -/
  | nowhere {t : Offset} (h : ∀ o ∈ m.operations, o.offset ≠ t) (hend : t ≠ m.codeSize) :
      Carried m m' start (.target t) (.target t)

namespace MethodDefinition

/-- What stands where in a method with records injected: `site` tells how operations are treated,
`start` where their groups begin, and `image` where they reappear. -/
structure Insertion (m : MethodDefinition) (c : InstrumentConfig) (region : ExceptionRegion)
    (m' : MethodDefinition) (tally : Tally) (site : ℕ → Treatment) (start image : ℕ → ℕ) :
    Prop where
  /-- Nothing but the body, the region, the variables and the stack depth changes. -/
  signature : { m' with
    operations := m.operations, regions := m.regions, locals := m.locals
    maxStack := m.maxStack } = m
  /-- Images are in order. -/
  image_lt : ∀ j k, j < k → k < m.operations.length → image j < image k
  /-- Images stand within their groups. -/
  image_mem : ∀ j < m.operations.length, start j ≤ image j ∧ image j < start (j + 1)
  /-- The first group begins behind the start of the test. -/
  start_zero : start 0 = 2
  /-- The last group ends with the body. -/
  start_length : start m.operations.length = m'.operations.length
  /-- Every operation behind the start of the test is part of a group. -/
  cover : ∀ p < m'.operations.length,
    p < 2 ∨ ∃ j < m.operations.length, start j ≤ p ∧ p < start (j + 1)
  /-- An operation reappears with its kind and operand. -/
  kept : ∀ j o, m.operations[j]? = some o → (site j).isResultCall = false →
    ∃ o', m'.operations[image j]? = some o' ∧ o'.kind = o.kind ∧
      Operand.Carried m m' start o.operand o'.operand
  /-- A pop whose call is recorded with its result reappears as a store into a variable that has
  been added. -/
  substituted : ∀ j o subject slot callee result, m.operations[j]? = some o →
    site j = .resultCall subject slot callee result → o.kind = .pop ∧
      (∃ o', m'.operations[image j]? = some o' ∧ o'.kind = .storeLocal ∧
        o'.operand = .slot slot) ∧
      m.locals.length ≤ slot.toNat ∧ slot.toNat < m'.locals.length
  /-- What the sites are. -/
  sites : ∀ j o, m.operations[j]? = some o → m.Site region site j o (site j)
  /-- Declared variables stay, and every recorded result gets a variable of its own. -/
  locals : ∃ added : List LocalVariable, m'.locals = m.locals ++ added ∧
    added.length = tally.addedLocals
  /-- The body begins with the start of the test. -/
  prologue : m'.operations.between 0 2 =
    [loadString m.declaringType.name, call c.api.startTest]
  /-- A return is preceded by the end of the test, and no other operation by anything. -/
  front : ∀ j o, m.operations[j]? = some o → m'.operations.between (start j) (image j) =
    if o.kind = .ret then [call c.api.endTest] else []
  /-- An operation is followed by the record that it or the operation behind it asks for. -/
  behind : ∀ j < m.operations.length, m'.operations.between (image j + 1) (start (j + 1)) =
    (site j).trail c ++ (site (j + 1)).lead c
  /-- Recorded constructions are counted. -/
  constructions : tally.constructions =
    (List.range m.operations.length).countP fun j => (site j).isConstruction
  /-- Calls that are recorded without their results are counted. -/
  plainCalls : tally.plainCalls =
    (List.range m.operations.length).countP fun j => (site j).isPlainCall
  /-- Calls that are recorded with their results are counted. -/
  resultCalls : tally.resultCalls =
    (List.range m.operations.length).countP fun j => (site j).isResultCall
  /-- Variables are added for these only. -/
  addedLocals : tally.addedLocals = tally.resultCalls
  /-- Returns are counted. -/
  endings : tally.endings = m.operations.countP Operation.isReturn

variable {m : MethodDefinition} (c : InstrumentConfig) (region : ExceptionRegion)

theorem between_instrumented (p q : ℕ) : (m.instrumented c region).operations.between p q =
    ((m.code c region).drop p).take (q - p) := by
  rw [Body.between, instrumented, Body.instructions_packed]

section Position

variable {j : ℕ} {o : Operation} (hj : m.operations[j]? = some o)
include hj

/-- The image of an operation in the instrumented body. -/
theorem getElem?_imageAt : ∃ offset, (m.instrumented c region).operations[m.imageAt c region j]? =
    some ⟨offset, ((m.treatmentAt c region j).image (m.relocate c region) o).1,
      ((m.treatmentAt c region j).image (m.relocate c region) o).2⟩ := by
  refine ⟨.capped (weight ((m.code c region).take (m.imageAt c region j))), ?_⟩
  rw [getElem?_instrumented, getElem?_code_imageAt c region (treatments_getElem c region hj)]
  rfl

/-- The first operation of a group. -/
theorem getElem?_groupStart :
    ∃ o', (m.instrumented c region).operations[m.groupStart c region j]? = some o' ∧
      o'.offset = m.groupOffset c region j := by
  have hlt := groupStart_lt_length c region (treatments_getElem c region hj)
  rw [getElem?_instrumented, List.getElem?_eq_getElem hlt, groupOffset_eq]
  exact ⟨_, rfl, rfl⟩

theorem between_front :
    (m.instrumented c region).operations.between (m.groupStart c region j)
      (m.imageAt c region j) = m.headAt c region j := by
  rw [between_instrumented, drop_code c region (treatments_getElem c region hj), imageAt,
    Nat.add_sub_cancel_left, List.take_left]

theorem between_behind :
    (m.instrumented c region).operations.between (m.imageAt c region j + 1)
      (m.groupStart c region (j + 1)) = m.tailAt c region j := by
  have ht := treatments_getElem c region hj
  rw [between_instrumented, drop_code_imageAt c region ht, groupStart_succ c region ht,
    Nat.add_sub_cancel_left, List.take_left]

end Position

/-- Targets are carried to groups. -/
theorem carried_retarget (hm : m.Valid) (a : Operand) :
    Operand.Carried m (m.instrumented c region) (m.groupStart c region) a
      (a.retarget (m.relocate c region)) := by
  cases a with
  | target t =>
    have hrelocated := hm.relocated c region t
    rw [Operand.retarget]
    generalize m.relocate c region t = t' at hrelocated
    cases hrelocated with
    | group hj ht =>
      obtain ⟨o', ho', hoffset⟩ := getElem?_groupStart c region hj
      rw [← ht, ← hoffset]
      exact .group hj ho'
    | codeEnd hnone ht =>
      rw [ht]
      exact .codeEnd
    | nowhere hnone ht => exact .nowhere hnone ht
  | _ => exact .same fun t h => by cases h

/-- Every position behind the start of the test belongs to a group. -/
theorem exists_group {k p : ℕ} (hk : k ≤ m.operations.length) (hp : p < m.groupStart c region k) :
    p < 2 ∨ ∃ j < k, m.groupStart c region j ≤ p ∧ p < m.groupStart c region (j + 1) := by
  induction k with
  | zero => exact .inl (groupStart_zero (m := m) c region ▸ hp)
  | succ k ih =>
    by_cases hlt : p < m.groupStart c region k
    · rcases ih (Nat.le_of_lt hk) hlt with h | ⟨j, hj, h⟩
      · exact .inl h
      · exact .inr ⟨j, Nat.lt_succ_of_lt hj, h⟩
    · exact .inr ⟨k, Nat.lt_succ_self k, Nat.not_lt.1 hlt, hp⟩

/-- Instrumenting an injectable method is an insertion. -/
theorem Injectable.insertion (h : m.Injectable region) :
    m.Insertion c region (m.instrumented c region) (m.tally c region) (m.treatmentAt c region)
      (m.groupStart c region) (m.imageAt c region) where
  signature := rfl
  image_lt j k hjk hk := by
    obtain ⟨t, ht⟩ := getElem?_treatments c region (List.getElem?_eq_getElem (Nat.lt_trans hjk hk))
    have hsucc := groupStart_succ c region ht
    have hle : m.groupStart c region (j + 1) ≤ m.groupStart c region k :=
      groupStart_le c region hjk (Nat.le_of_lt hk)
    have himage : m.groupStart c region k ≤ m.imageAt c region k := Nat.le_add_right _ _
    omega
  image_mem j hj := by
    obtain ⟨t, ht⟩ := getElem?_treatments c region (List.getElem?_eq_getElem hj)
    rw [groupStart_succ c region ht, imageAt]
    omega
  start_zero := groupStart_zero c region
  start_length := by rw [groupStart_length, length_instrumented]
  cover p hp := by
    rw [length_instrumented, ← groupStart_length] at hp
    exact exists_group c region (Nat.le_refl _) hp
  kept j o hj hsite := by
    obtain ⟨offset, hget⟩ := getElem?_imageAt c region hj
    have himage : (m.treatmentAt c region j).image (m.relocate c region) o =
        (o.kind, o.operand.retarget (m.relocate c region)) := by
      generalize m.treatmentAt c region j = t at hsite
      cases t with
      | resultCall => exact absurd hsite (by simp [Treatment.isResultCall])
      | _ => rfl
    rw [himage] at hget
    exact ⟨_, hget, rfl, carried_retarget c region h.valid o.operand⟩
  substituted j o subject slot callee result hj hsite := by
    obtain ⟨offset, hget⟩ := getElem?_imageAt c region hj
    have hkind := site_at c region hj
    rw [hsite] at hget hkind
    refine ⟨?_, ⟨_, hget, rfl, rfl⟩, temporary_lt c region hj hsite⟩
    cases hkind with
    | resultCall hj hk hcall hcallee hresult htry hpop => exact hpop
  sites j o hj := site_at c region hj
  locals := by
    obtain ⟨added, hlocals, hlength⟩ := locals_instrumented (m := m) c region
    exact ⟨added, hlocals, hlength.trans (m.tally_addedLocals c region).symm⟩
  prologue := by
    rw [between_instrumented, List.drop_zero, ← take_code_zero c region, groupStart_zero]
  front j o hj := by rw [between_front c region hj, headAt_eq c region hj]
  behind j hj := by
    have hget : m.operations[j]? = some m.operations[j] := List.getElem?_eq_getElem hj
    rw [between_behind c region hget, tailAt_eq c region hget]
  constructions := m.tally_constructions c region
  plainCalls := m.tally_plainCalls c region
  resultCalls := m.tally_resultCalls c region
  addedLocals := (m.tally_addedLocals c region).trans (m.tally_resultCalls c region).symm
  endings := m.tally_endings c region

end MethodDefinition

end BuildDrift
