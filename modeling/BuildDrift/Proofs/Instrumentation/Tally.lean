import BuildDrift.Proofs.Instrumentation.Protected
import BuildDrift.Proofs.Instrumentation.Reports

/-!
# What the tally counts

The tally of an instrumented method can be read off the given body. It counts the protected stores
of constructed objects, the returns, and the protected operations behind calls that store nothing.
Of these every one is counted once: as a call recorded without its result, as a call recorded with
its result, or as a site that is not recorded. The only other sites that are not recorded are
protected stores with nothing in front of them, and protected stores of constructed objects into
variables that are not known. The body grows by what is counted.

## Main definitions

* `Operation.storesObject`, `Operation.storesUnknown`, `Operation.storesFirst`,
  `Operation.followsCall`: what an operation is in view of the one in front of it.
* `MethodDefinition.protectedAt`: a protected operation with such a property.
* `MethodDefinition.Reckoned`: what the tally of an instrumented method counts.

## Main results

* `Progress.Rule.isConstruction_eq`, `Progress.Rule.count_of_followsCall`,
  `Progress.Rule.isUnrecorded_iff`: what the rules of treatment count.
* `Treatment.length_output`, `Treatment.calls_output`: what single treatments add.
* `Tally.length_outputs`, `Tally.calls_outputs`: what the treatments of a body add.
* `Tally.unrecorded_sublist`: sites that are not recorded are noted in order.
* `Instrumentation.onMethod_reckoned`: the tally of an instrumented method.
-/

namespace BuildDrift

open Instruction

/-! ### What is counted -/

/-- Whether an instruction calls a method by name. -/
def Instruction.isCall (i : Instruction) : Bool :=
  i.1 = .call

namespace Treatment

/-- Whether the operation is kept because something is missing for a record. -/
def isUnrecorded : Treatment → Bool
  | unrecorded _ => true
  | _ => false

/-- Whether a result is recorded that has to be turned into an object. -/
def boxesResult : Treatment → Bool
  | resultCall _ _ _ result => result.isValueType
  | _ => false

end Treatment

namespace Operation

variable (previous : Option Operation) (o : Operation)

/-- Whether the operation stores a constructed object into a known variable. -/
def storesObject : Bool :=
  previous.any (fun p => p.kind = .newObj) && o.isStore && o.slot?.isSome

/-- Whether the operation stores a constructed object into a variable that is not known. -/
def storesUnknown : Bool :=
  previous.any (fun p => p.kind = .newObj) && o.isStore && o.slot?.isNone

/-- Whether the operation is a store with nothing in front of it. -/
def storesFirst : Bool :=
  previous.isNone && o.isStore

/-- Whether the operation stands behind a call and is no store. -/
def followsCall : Bool :=
  previous.any (fun p => p.kind = .callVirt) && !o.isStore

end Operation

namespace MethodDefinition

/-- Whether the operation at a position is protected and has a property, which may depend on the
operation in front of it. -/
def protectedAt (m : MethodDefinition) (region : ExceptionRegion)
    (property : Option Operation → Operation → Bool) (j : ℕ) : Bool :=
  m.operations[j]?.any fun o => region.inTry o.offset && property (m.operations.before? j) o

/-- The tally of a method with records injected counts what the given body has, when operations are
treated as `site` tells, and the method grows by what is counted. -/
structure Reckoned (m : MethodDefinition) (region : ExceptionRegion) (m' : MethodDefinition)
    (tally : Tally) (site : ℕ → Treatment) : Prop where
  /-- The recorded constructions are the protected stores of objects into known variables. -/
  construction : ∀ j < m.operations.length,
    (site j).isConstruction = m.protectedAt region Operation.storesObject j
  /-- They are counted. -/
  constructions : tally.constructions =
    (List.range m.operations.length).countP (m.protectedAt region Operation.storesObject)
  /-- Returns are counted. -/
  endings : tally.endings = m.operations.countP Operation.isReturn
  /-- A protected operation behind a call that is no store is one of three. -/
  call : ∀ j < m.operations.length, m.protectedAt region Operation.followsCall j = true →
    [(site j).isPlainCall, (site j).isResultCall, (site j).isUnrecorded].count true = 1
  /-- Calls are recorded at such operations only. -/
  followsCall : ∀ j < m.operations.length,
    (site j).isPlainCall = true ∨ (site j).isResultCall = true →
      m.protectedAt region Operation.followsCall j = true
  /-- A result is recorded only where the result of a method is dropped. -/
  pop : ∀ j o subject temporary callee result, m.operations[j]? = some o →
    site j = .resultCall subject temporary callee result → o.kind = .pop ∧
      ∃ p, m.operations.before? j = some p ∧ p.operand = .method callee ∧
        callee.returnType = some result
  /-- Apart from calls, what is not recorded are stores in front of everything and stores of objects
  into variables that are not known. -/
  store : ∀ j < m.operations.length, m.protectedAt region Operation.followsCall j = false →
    ((site j).isUnrecorded = true ↔ m.protectedAt region Operation.storesFirst j = true ∨
      m.protectedAt region Operation.storesUnknown j = true)
  /-- Calls that are recorded without their results are counted. -/
  plainCalls : tally.plainCalls =
    (List.range m.operations.length).countP fun j => (site j).isPlainCall
  /-- Calls that are recorded with their results are counted. -/
  resultCalls : tally.resultCalls =
    (List.range m.operations.length).countP fun j => (site j).isResultCall
  /-- The sites that are not recorded are noted with their offsets. -/
  unrecorded : ∀ s, s ∈ tally.unrecorded ↔ ∃ j o, m.operations[j]? = some o ∧
    site j = .unrecorded s.obstacle ∧ o.offset = s.offset
  /-- They are noted in order, each of them once. -/
  increasing : tally.unrecorded.Pairwise fun s t => s.offset < t.offset
  /-- Variables are added for recorded results. -/
  addedLocals : tally.addedLocals = tally.resultCalls
  /-- These are all variables that are added. -/
  locals : m'.locals.length = m.locals.length + tally.addedLocals
  /-- All calls that are added are injected ones. -/
  calls : m'.operations.countP (fun o => o.kind = .call) =
    m.operations.countP (fun o => o.kind = .call) + tally.injectedCalls
  /-- How many operations are added. -/
  length : m'.operations.length = m.operations.length + 2 +
    3 * (tally.constructions + tally.plainCalls) + 4 * tally.resultCalls + tally.endings +
    (List.range m.operations.length).countP fun j => (site j).boxesResult

end MethodDefinition

/-! ### What the rules count -/

namespace Progress.Rule

variable {p q : Progress} {o : Operation} {inTry : Bool} {previous : Option Operation}
  {t : Treatment} (h : Rule p o inTry previous t q)
include h

theorem isConstruction_eq : t.isConstruction = (inTry && o.storesObject previous) := by
  cases h <;> simp_all [Treatment.isConstruction, Operation.storesObject, Operation.isStore]

/-- A protected operation behind a call that is no store is counted as one of three. -/
theorem count_of_followsCall (hcall : (inTry && o.followsCall previous) = true) :
    [t.isPlainCall, t.isResultCall, t.isUnrecorded].count true = 1 := by
  cases h <;> simp_all [Operation.followsCall, Treatment.isPlainCall, Treatment.isResultCall,
    Treatment.isUnrecorded]

theorem followsCall_of_recorded (ht : t.isPlainCall = true ∨ t.isResultCall = true) :
    (inTry && o.followsCall previous) = true := by
  cases h <;> simp_all [Operation.followsCall, Operation.isStore, Treatment.isPlainCall,
    Treatment.isResultCall]

/-- Any other site that is not recorded is a store that lacks something. -/
theorem isUnrecorded_iff (hcall : (inTry && o.followsCall previous) = false) :
    t.isUnrecorded = true ↔
      (inTry && o.storesFirst previous) = true ∨ (inTry && o.storesUnknown previous) = true := by
  cases h <;> simp_all [Operation.followsCall, Operation.storesFirst, Operation.storesUnknown,
    Operation.isStore, Treatment.isUnrecorded]

end Progress.Rule

/-! ### What treatments add -/

namespace Treatment

variable (c : InstrumentConfig) (f : Offset → Offset) (o : Operation) (t : Treatment)

theorem length_callRecord (subject : UInt16) (callee : String) :
    (callRecord c subject callee).length = 3 := rfl

theorem length_resultRecord (subject temporary : UInt16) (callee : MethodRef) (result : TypeRef) :
    (resultRecord c subject temporary callee result).length =
      4 + if result.isValueType then 1 else 0 := by
  cases h : result.isValueType <;> simp [resultRecord, h]

theorem length_kept : (if o.isReturn then [call c.api.endTest] else []).length =
    o.isReturn.toNat := by
  cases o.isReturn <;> rfl

/-- What a treatment adds to the length of the body. -/
theorem length_output : (t.output c f o).length =
    1 + 3 * ((Tally.ofTreated (o, t)).constructions + (Tally.ofTreated (o, t)).plainCalls) +
      4 * (Tally.ofTreated (o, t)).resultCalls + (Tally.ofTreated (o, t)).endings +
      if t.boxesResult then 1 else 0 := by
  rw [output, List.length_append, List.length_append, List.length_cons]
  cases t with
  | construction subject => rfl
  | resultCall subject temporary callee result =>
    have hrecord := length_resultRecord c subject temporary callee result
    have hboxes : boxesResult (resultCall subject temporary callee result) =
        result.isValueType := rfl
    simp only [lead, head, trail, Tally.ofTreated, hboxes, hrecord, List.length_nil]
    omega
  | plainCall subject callee =>
    have hkept := length_kept c o
    simp only [lead, head, trail, Tally.ofTreated, boxesResult, hkept, length_callRecord,
      List.length_nil, Bool.false_eq_true, ↓reduceIte]
    omega
  | _ =>
    have hkept := length_kept c o
    simp only [lead, head, trail, Tally.ofTreated, boxesResult, hkept, List.length_nil,
      Bool.false_eq_true, ↓reduceIte]
    omega

theorem calls_callRecord (subject : UInt16) (callee : String) :
    (callRecord c subject callee).countP isCall = 1 := rfl

theorem calls_resultRecord (subject temporary : UInt16) (callee : MethodRef) (result : TypeRef) :
    (resultRecord c subject temporary callee result).countP isCall = 1 := by
  cases h : result.isValueType <;> simp [resultRecord, h, isCall, loadLocal, loadString, call]

theorem calls_kept : (if o.isReturn then [call c.api.endTest] else []).countP isCall =
    o.isReturn.toNat := by
  cases o.isReturn <;> rfl

/-- An image is a call if the operation is one, provided that no call is replaced. -/
theorem isCall_image (h : t.isResultCall = true → o.kind ≠ .call) :
    isCall (t.image f o) = isCall o.instruction := by
  cases t with
  | resultCall => exact (decide_eq_false (h rfl)).symm
  | _ => rfl

/-- What a treatment adds to the calls of the body. -/
theorem calls_output (h : t.isResultCall = true → o.kind ≠ .call) :
    (t.output c f o).countP isCall = (if isCall o.instruction then 1 else 0) +
      ((Tally.ofTreated (o, t)).constructions + (Tally.ofTreated (o, t)).plainCalls +
        (Tally.ofTreated (o, t)).resultCalls + (Tally.ofTreated (o, t)).endings) := by
  have hkept := calls_kept c o
  rw [output, List.countP_append, List.countP_append, List.countP_cons, isCall_image f o t h]
  cases t with
  | construction subject =>
    simp only [lead, head, trail, Tally.ofTreated, calls_callRecord, List.countP_nil]
    omega
  | resultCall subject temporary callee result =>
    simp only [lead, head, trail, Tally.ofTreated, calls_resultRecord, List.countP_nil]
    omega
  | plainCall subject callee =>
    simp only [lead, head, trail, Tally.ofTreated, hkept, calls_callRecord, List.countP_nil]
    omega
  | _ =>
    simp only [lead, head, trail, Tally.ofTreated, hkept, List.countP_nil]
    omega

end Treatment

/-! ### What bodies gain -/

namespace Tally

variable (c : InstrumentConfig) (f : Offset → Offset)

/-- What treatments add to the length of the body. -/
theorem length_outputs (treated : List (Operation × Treatment)) :
    (treated.flatMap fun (o, t) => t.output c f o).length = treated.length +
      3 * ((ofBody treated).constructions + (ofBody treated).plainCalls) +
      4 * (ofBody treated).resultCalls + (ofBody treated).endings +
      treated.countP fun entry => entry.2.boxesResult := by
  induction treated with
  | nil => rfl
  | cons entry treated ih =>
    obtain ⟨o, t⟩ := entry
    rw [List.flatMap_cons, List.length_append, ih, t.length_output c f o, List.length_cons,
      List.countP_cons, ofBody_cons]
    simp only [add]
    omega

/-- What treatments add to the calls of the body. -/
theorem calls_outputs {treated : List (Operation × Treatment)}
    (h : ∀ o t, (o, t) ∈ treated → t.isResultCall = true → o.kind ≠ .call) :
    (treated.flatMap fun (o, t) => t.output c f o).countP isCall =
      treated.countP (fun entry => isCall entry.1.instruction) +
        ((ofBody treated).constructions + (ofBody treated).plainCalls +
          (ofBody treated).resultCalls + (ofBody treated).endings) := by
  induction treated with
  | nil => rfl
  | cons entry treated ih =>
    obtain ⟨o, t⟩ := entry
    have hentry := t.calls_output c f o (h o t List.mem_cons_self)
    have ih := ih fun p u hu => h p u (List.mem_cons_of_mem _ hu)
    rw [List.flatMap_cons, List.countP_append, ih, hentry, List.countP_cons, ofBody_cons]
    simp only [add]
    omega

/-- Sites that are not recorded are noted in the order of the body. -/
theorem unrecorded_sublist (treated : List (Operation × Treatment)) :
    ((ofBody treated).unrecorded.map UnrecordedSite.offset).Sublist
      ((treated.map Prod.fst).map Operation.offset) := by
  induction treated with
  | nil => exact List.Sublist.refl _
  | cons entry treated ih =>
    obtain ⟨o, t⟩ := entry
    rw [ofBody_cons, add, List.map_append]
    cases t with
    | unrecorded obstacle => exact ih.cons_cons o.offset
    | _ => exact ih.cons o.offset

end Tally

namespace MethodDefinition

variable {m : MethodDefinition} (c : InstrumentConfig) (region : ExceptionRegion)

/-- How many operations are added to a body. -/
theorem length_operations_instrumented :
    (m.instrumented c region).operations.length = m.operations.length + 2 +
      3 * ((m.tally c region).constructions + (m.tally c region).plainCalls) +
      4 * (m.tally c region).resultCalls + (m.tally c region).endings +
      (List.range m.operations.length).countP
        fun j => (m.treatmentAt c region j).boxesResult := by
  have hboxes := m.countP_treatments c region Treatment.boxesResult
  have houtputs := Tally.length_outputs c (m.relocate c region) (m.treatments c region).1
  rw [length_instrumented, code_eq, List.length_cons, List.length_cons, houtputs,
    m.length_treatments c region, hboxes, tally]
  omega

/-- All calls that are added are injected ones. -/
theorem calls_instrumented :
    (m.instrumented c region).operations.countP (fun o => o.kind = .call) =
      m.operations.countP (fun o => o.kind = .call) + (m.tally c region).injectedCalls := by
  -- Only pops are replaced, so no call of the given body is lost.
  have hpop : ∀ o t, (o, t) ∈ (m.treatments c region).1 → t.isResultCall = true →
      o.kind ≠ .call := by
    intro o t ht hresult
    obtain ⟨j, hj, rfl⟩ := (m.mem_treatments_iff c region).1 ht
    have hsite := site_at c region hj
    generalize m.treatmentAt c region j = t at hsite hresult
    cases hsite with
    | resultCall _ _ _ _ _ _ hpop => simp [hpop]
    | _ => exact absurd hresult (by simp [Treatment.isResultCall])
  have houtputs := Tally.calls_outputs c (m.relocate c region) hpop
  have hcode : (m.instrumented c region).operations.countP (fun o => o.kind = .call) =
      (m.code c region).countP isCall := by
    rw [← Body.instructions_packed 0 (m.code c region), Body.instructions, List.countP_map]
    rfl
  have hgiven : m.operations.countP (fun o => o.kind = .call) =
      (m.treatments c region).1.countP fun entry => isCall entry.1.instruction := by
    conv_lhs => rw [← m.map_fst_treatments c region, List.countP_map]
    rfl
  have hopening : isCall (loadString m.declaringType.name) = false := rfl
  have hstart : isCall (call c.api.startTest) = true := rfl
  rw [hcode, code_eq, List.countP_cons_of_neg (by simp [hopening]),
    List.countP_cons_of_pos hstart, houtputs, hgiven, Tally.injectedCalls, tally]
  omega

section Position

variable {j : ℕ} {o : Operation} (hj : m.operations[j]? = some o)
include hj

theorem protectedAt_eq (property : Option Operation → Operation → Bool) :
    m.protectedAt region property j =
      (region.inTry o.offset && property (m.operations.before? j) o) := by
  rw [protectedAt, hj, Option.any_some]

/-- Results are recorded at pops behind calls of methods that have one. -/
theorem pop_of_resultCall {subject temporary : UInt16} {callee : MethodRef} {result : TypeRef}
    (ht : m.treatmentAt c region j = .resultCall subject temporary callee result) :
    o.kind = .pop ∧ ∃ p, m.operations.before? j = some p ∧ p.operand = .method callee ∧
      callee.returnType = some result := by
  have hsite := site_at c region hj
  rw [ht] at hsite
  cases hsite with
  | resultCall hk hget _ hcallee hresult _ hpop _ _ =>
    subst hk
    have hlt := (List.getElem?_eq_some_iff.1 hget).1
    exact ⟨hpop, _, (Body.before?_succ hlt).trans hget, hcallee, hresult⟩

end Position

/-- The tally of an instrumented method counts what the given body has. -/
theorem Injectable.reckoned {region : ExceptionRegion} (h : m.Injectable region) :
    m.Reckoned region (m.instrumented c region) (m.tally c region)
      (m.treatmentAt c region) := by
  have hconstruction : ∀ j < m.operations.length, (m.treatmentAt c region j).isConstruction =
      m.protectedAt region Operation.storesObject j := by
    intro j hj
    have hget := List.getElem?_eq_getElem hj
    rw [protectedAt_eq region hget]
    exact (rule_at c region hget).isConstruction_eq
  exact {
    construction := hconstruction
    constructions := by
      rw [m.tally_constructions c region]
      exact List.countP_congr fun j hj => by rw [hconstruction j (List.mem_range.1 hj)]
    endings := m.tally_endings c region
    call := by
      intro j hj hcall
      have hget := List.getElem?_eq_getElem hj
      rw [protectedAt_eq region hget] at hcall
      exact (rule_at c region hget).count_of_followsCall hcall
    followsCall := by
      intro j hj hrecorded
      have hget := List.getElem?_eq_getElem hj
      rw [protectedAt_eq region hget]
      exact (rule_at c region hget).followsCall_of_recorded hrecorded
    pop := fun j o subject temporary callee result hj ht => pop_of_resultCall c region hj ht
    store := by
      intro j hj hcall
      have hget := List.getElem?_eq_getElem hj
      rw [protectedAt_eq region hget] at hcall
      rw [protectedAt_eq region hget, protectedAt_eq region hget]
      exact (rule_at c region hget).isUnrecorded_iff hcall
    plainCalls := m.tally_plainCalls c region
    resultCalls := m.tally_resultCalls c region
    unrecorded := by
      intro s
      simp only [tally, Tally.mem_unrecorded_ofBody_iff, mem_treatments_iff]
      constructor
      · rintro ⟨o, ⟨j, hj, ht⟩, hoffset⟩
        exact ⟨j, o, hj, ht, hoffset⟩
      · rintro ⟨j, o, hj, ht, hoffset⟩
        exact ⟨o, ⟨j, hj, ht⟩, hoffset⟩
    increasing := by
      have hsublist := Tally.unrecorded_sublist (m.treatments c region).1
      rw [m.map_fst_treatments c region] at hsublist
      exact List.pairwise_map.1 ((List.pairwise_map.2 h.valid.ordered).sublist hsublist)
    addedLocals := (m.tally_addedLocals c region).trans (m.tally_resultCalls c region).symm
    locals := by
      obtain ⟨added, hlocals, hlength⟩ := locals_instrumented (m := m) c region
      rw [hlocals, List.length_append, hlength, m.tally_addedLocals c region]
    calls := calls_instrumented c region
    length := length_operations_instrumented c region }

end MethodDefinition

namespace Instrumentation

/-- The tally of an instrumented method is exact. -/
theorem onMethod_reckoned {i : Instrumentation} {m m' : MethodDefinition} {tally : Tally}
    {logs : List LogRecord} (h : i.onMethod m = .ok ⟨m', .injected tally, logs⟩) :
    ∃ region site start image, m.regions = [region] ∧
      m.Insertion i.config region m' tally site start image ∧
      m.Reckoned region m' tally site := by
  obtain ⟨region, hm, rfl, rfl⟩ := i.injectable_of_onMethod h
  exact ⟨region, _, _, _, hm.regions, hm.insertion i.config region, hm.reckoned i.config⟩

/-- In the example one result is recorded, and one call without its result. -/
theorem onMethod_sample_reckoned : ∃ m' tally logs,
    ({} : Instrumentation).onMethod (.sample 6) = .ok ⟨m', .injected tally, logs⟩ ∧
      tally = ⟨1, 1, 1, 1, 1, []⟩ ∧
      m'.operations.countP (fun o => o.kind = .call) =
        (MethodDefinition.sample 6).operations.countP (fun o => o.kind = .call) + 5 := by
  obtain ⟨logs, h⟩ :=
    ({} : Instrumentation).onMethod_eq_injected MethodDefinition.injectable_sample
  obtain ⟨region, site, start, image, -, -, hreckoned⟩ := onMethod_reckoned h
  exact ⟨_, _, logs, h, by decide, hreckoned.calls⟩

end Instrumentation

end BuildDrift
