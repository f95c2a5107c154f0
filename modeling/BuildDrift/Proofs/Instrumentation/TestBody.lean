import BuildDrift.Proofs.Comparison.SingleTest
import BuildDrift.Proofs.Execution.Symbolic
import BuildDrift.Proofs.Instrumentation.Protected
import Mathlib.Data.Nat.Find

/-!
# Tests of one object

The body of a test constructs an object, keeps it in a local variable and calls methods on it with
constant arguments, dropping the results. When the body is protected as a whole, running the
instrumented body records the construction and every call in order, with the result if there is
one. So two runs of the test drift apart at the first call whose results differ.

## Main definitions

* `Constant`, `TestCall`, `TestBody`: such bodies; `TestBody.code` are their instructions.
* `MethodDefinition.HasBody`: a method with such a body, protected as a whole.
* `TestBody.log`: the expected log.
* `TestBody.Differs`: the results of a call differ between two runs.

## Main results

* `TestCall.emits_code`: what the pass makes of calls.
* `TestCall.run_instrumented`: what is recorded when instrumented calls are run.
* `Instrumentation.onMethod_records`: what instrumented tests record, and how two runs compare.
-/

namespace BuildDrift

open Instruction

/-! ### Bodies -/

/-- A constant argument. -/
inductive Constant where
  /-- A string. -/
  | text (value : String)
  /-- An integer of 32 bits. -/
  | int (value : Int32)

namespace Constant

/-- The instruction that loads the constant. -/
def instruction : Constant → Instruction
  | text value => loadString value
  | int value => (.other 0x20, .immediate (.int value.toInt64))

/-- What a machine on texts loads. -/
def value : Constant → String
  | text value => value
  | int value => toString value.toInt64.toInt

theorem inert_instruction (a : Constant) : a.instruction.Inert := by
  cases a <;> exact ⟨OpKind.noConfusion, OpKind.noConfusion, OpKind.noConfusion,
    OpKind.noConfusion, fun _ => rfl⟩

end Constant

/-- A call on the object under test with constant arguments. -/
structure TestCall where
  /-- The method that is called. -/
  callee : MethodRef
  /-- The arguments. -/
  arguments : List Constant
  /-- There is an argument for every parameter. -/
  arity : arguments.length = callee.parameters.length

namespace TestCall

/-- Whether there is a result. -/
def returns (call : TestCall) : Bool :=
  call.callee.returnType.isSome

theorem returns_of_none {call : TestCall} (h : call.callee.returnType = none) :
    call.returns = false := by
  rw [returns, h]
  rfl

theorem returns_of_some {call : TestCall} {type : TypeRef}
    (h : call.callee.returnType = some type) : call.returns = true := by
  rw [returns, h]
  rfl

/-- The instructions of a call on the object in a local variable; a result is dropped. -/
def code (subject : UInt16) (call : TestCall) : List Instruction :=
  loadLocal subject :: call.arguments.map Constant.instruction ++
    (.callVirt, .method call.callee) :: if call.returns then [(.pop, .none)] else []

/-- The event of the `n`-th call, counted from zero, on an object. -/
def event (result : ℕ → MethodRef → String) (object : String) (n : ℕ) (call : TestCall) :
    TraceEvent :=
  if call.returns then .resultCall object (result n call.callee) call.callee.name
  else .plainCall object call.callee.name

/-- The events of calls; `n` calls come before them. -/
def events (result : ℕ → MethodRef → String) (object : String) (n : ℕ) (calls : List TestCall) :
    List TraceEvent :=
  (calls.zipIdx n).map fun (call, k) => call.event result object k

end TestCall

/-- A body that constructs an object, keeps it in a local variable and calls methods on it. -/
structure TestBody where
  /-- The constructor of the object. -/
  constructor : MethodRef
  /-- The constructor has no parameters. -/
  parameterless : constructor.parameters = []
  /-- The local variable that holds the object. -/
  subject : UInt16
  /-- The calls, in order. -/
  calls : List TestCall

namespace TestBody

/-- The instructions of the body. -/
def code (t : TestBody) : List Instruction :=
  (.newObj, .method t.constructor) :: storeLocal t.subject ::
    (t.calls.flatMap (TestCall.code t.subject) ++ [(.ret, .none)])

/-- The object as it is recorded. -/
def object (t : TestBody) : String :=
  SymbolicMachine.objectText t.constructor 1

/-- The log of a run of the test. -/
def log (t : TestBody) (name constructor : String) (result : ℕ → MethodRef → String) : EventLog :=
  .ofTest name (.plainCall t.object constructor :: TestCall.events result t.object 0 t.calls)

/-- The results of the call at a position differ between two runs. -/
def Differs (t : TestBody) (old new : ℕ → MethodRef → String) (n : ℕ) : Prop :=
  ∃ call, t.calls[n]? = some call ∧ call.returns = true ∧ old n call.callee ≠ new n call.callee

end TestBody

/-- A method with such a body, protected as a whole. -/
structure MethodDefinition.HasBody (m : MethodDefinition) (t : TestBody)
    (region : ExceptionRegion) : Prop where
  /-- The method is valid, and the bounds of its single region are operations. -/
  injectable : m.Injectable region
  /-- The body. -/
  code : m.operations.instructions = t.code
  /-- The region protects every operation. -/
  inTry : ∀ o ∈ m.operations, region.inTry o.offset = true
  /-- The local variable that holds the object is declared. -/
  declared : t.subject.toNat < m.locals.length
  /-- There is a slot for every result. -/
  room : m.locals.length + t.calls.countP TestCall.returns ≤ Temporaries.slotLimit

/-! ### Instrumented calls -/

/-- As long as there is a slot left, the next temporary takes it. -/
theorem Temporaries.exists_add? (t : Temporaries) (type : TypeRef)
    (h : t.locals.length < slotLimit) :
    ∃ u, t.add? type = some (UInt16.ofNat t.locals.length, u) ∧
      u.locals.length = t.locals.length + 1 := by
  rw [add?, if_pos h]
  exact ⟨_, rfl, List.length_append⟩

namespace TestCall

/-- What calls and the return behind them become; results are kept from slot `free` on. -/
def instrumented (c : InstrumentConfig) (subject : UInt16) : ℕ → List TestCall → List Instruction
  | _, [] => [call c.api.endTest, (.ret, .none)]
  | free, t :: calls =>
    (loadLocal subject :: t.arguments.map Constant.instruction) ++ (.callVirt, .method t.callee) ::
      match t.callee.returnType with
      | none => Treatment.callRecord c subject t.callee.name ++ instrumented c subject free calls
      | some type => storeLocal (UInt16.ofNat free) ::
          Treatment.resultRecord c subject (UInt16.ofNat free) t.callee type ++
            instrumented c subject (free + 1) calls

/-- Calls and the return behind them begin with an instruction that neither stores nor drops. -/
private theorem exists_head?_code (subject : UInt16) (calls : List TestCall) :
    ∃ i, (calls.flatMap (code subject) ++ [((.ret, .none) : Instruction)]).head? = some i ∧
      i.1 ≠ .storeLocal ∧ i.1 ≠ .pop := by
  cases calls with
  | nil => exact ⟨_, rfl, OpKind.noConfusion, OpKind.noConfusion⟩
  | cons t calls => exact ⟨loadLocal subject, rfl, OpKind.noConfusion, OpKind.noConfusion⟩

/-- Everything in front of the call itself is kept. -/
private theorem emits_arguments {c : InstrumentConfig} {f : Offset → Offset} {p q : Progress}
    (subject : UInt16) (t : TestCall) {rest out : List Instruction}
    (h : Progress.Emits c f p (some (.callVirt, .method t.callee)) rest out q) :
    Progress.Emits c f p none
      ((loadLocal subject :: t.arguments.map Constant.instruction) ++
        (.callVirt, .method t.callee) :: rest)
      ((loadLocal subject :: t.arguments.map Constant.instruction) ++
        (.callVirt, .method t.callee) :: out) q := by
  refine .inert ?_ (.keep OpKind.noConfusion OpKind.noConfusion rfl h)
  simp only [List.forall_mem_cons, List.forall_mem_map]
  exact ⟨⟨OpKind.noConfusion, OpKind.noConfusion, OpKind.noConfusion, OpKind.noConfusion,
    fun _ => rfl⟩, fun a _ => a.inert_instruction⟩

/-- What the pass makes of calls: it keeps a temporary for every result. -/
theorem emits_code {c : InstrumentConfig} {f : Offset → Offset} {p : Progress} {subject : UInt16}
    (hsubject : p.subject = some subject) {calls : List TestCall}
    (hroom : p.temporaries.locals.length + calls.countP returns ≤ Temporaries.slotLimit) :
    ∃ q, Progress.Emits c f p none (calls.flatMap (code subject) ++ [(.ret, .none)])
        (instrumented c subject p.temporaries.locals.length calls) q ∧
      q.temporaries.locals.length = p.temporaries.locals.length + calls.countP returns := by
  -- On the way, the object under test is known, and the next temporary takes the slot behind all
  -- variables there are.
  induction calls generalizing p with
  | nil => exact ⟨p, .ending, rfl⟩
  | cons t calls ih =>
    cases hreturn : t.callee.returnType with
    | none =>
      have hreturns := returns_of_none hreturn
      rw [List.countP_cons_of_neg (by simp [hreturns])] at hroom ⊢
      obtain ⟨q, hq, hlength⟩ := ih hsubject hroom
      obtain ⟨i, hfirst, hstore, hpop⟩ := exists_head?_code subject calls
      have hcall := emits_arguments subject t (hq.plainCall hsubject hfirst hstore hpop)
      refine ⟨q, ?_, hlength⟩
      simpa [code, instrumented, hreturns, hreturn] using hcall
    | some type =>
      have hreturns := returns_of_some hreturn
      rw [List.countP_cons_of_pos hreturns] at hroom ⊢
      obtain ⟨temporaries, hadd, hlocals⟩ := p.temporaries.exists_add? type (by omega)
      obtain ⟨q, hq, hlength⟩ := ih (p := { p with temporaries }) hsubject (by
        rw [hlocals]
        omega)
      rw [hlocals] at hq hlength
      have hcall := emits_arguments subject t (hq.resultCall hsubject hreturn hadd)
      refine ⟨q, ?_, by omega⟩
      simpa [code, instrumented, hreturns, hreturn] using hcall

/-! ### Running instrumented calls -/

section Run

variable {M : SymbolicMachine} {s : SymbolicMachine.State} {rest : List Instruction}

theorem run_constants (arguments : List Constant) :
    M.run s (arguments.map Constant.instruction ++ rest) =
      M.run { s with stack := (arguments.map Constant.value).reverse ++ s.stack } rest := by
  induction arguments generalizing s with
  | nil => rfl
  | cons a arguments ih =>
    have hload (code : List Instruction) :
        M.run s (a.instruction :: code) = M.run (s.push a.value) code := by
      cases a <;> exact SymbolicMachine.run_cons OpKind.noConfusion
    rw [List.map_cons, List.cons_append, hload, ih]
    simp [SymbolicMachine.State.push]

/-- A call leaves its result on the stack, if there is one. -/
theorem run_call {subject : UInt16} {object : String}
    (hobject : s.locals[subject.toNat]? = some object) (t : TestCall) :
    M.run s ((loadLocal subject :: t.arguments.map Constant.instruction) ++
        (.callVirt, .method t.callee) :: rest) =
      M.run { s with
        stack := (if t.returns then [M.result s.calls t.callee] else []) ++ s.stack
        calls := s.calls + 1 } rest := by
  have hdrop : ((t.arguments.map Constant.value).reverse ++ object :: s.stack).drop
      (t.callee.parameters.length + 1) = s.stack := by
    rw [List.append_cons]
    exact List.drop_left' (by simp [t.arity])
  rw [List.cons_append, SymbolicMachine.run_loadLocal hobject, run_constants,
    SymbolicMachine.run_callVirt, SymbolicMachine.invoke]
  simp only [SymbolicMachine.State.drop, SymbolicMachine.State.push, hdrop]
  cases hreturn : t.callee.returnType with
  | none => simp [returns_of_none hreturn, MethodRef.isVoid, hreturn]
  | some type => simp [returns_of_some hreturn, MethodRef.isVoid, hreturn]

variable {c : InstrumentConfig} (hdistinct : c.api.entryPoints.Nodup)
  {result : ℕ → MethodRef → String} {subject : UInt16} {object : String} {free : ℕ} {t : TestCall}
  {calls : List TestCall}
include hdistinct

/-- A call without a result is recorded. -/
theorem run_instrumented_plainCall (hobject : s.locals[subject.toNat]? = some object)
    (hreturn : t.callee.returnType = none) :
    SymbolicMachine.run ⟨c.api, result⟩ s (instrumented c subject free (t :: calls)) =
      SymbolicMachine.run ⟨c.api, result⟩
        ({ s with calls := s.calls + 1 }.record (t.event result object s.calls))
        (instrumented c subject free calls) := by
  rw [instrumented, run_call hobject, hreturn, event, returns_of_none hreturn]
  exact SymbolicMachine.run_callRecord (s := { s with calls := s.calls + 1 }) hdistinct hobject
    t.callee.name

/-- A result is kept in the next slot and recorded. -/
theorem run_instrumented_resultCall (hobject : s.locals[subject.toNat]? = some object)
    {type : TypeRef} (hreturn : t.callee.returnType = some type) (hsubject : subject.toNat < free)
    (hroom : free < s.locals.length) (hlimit : s.locals.length ≤ Temporaries.slotLimit) :
    SymbolicMachine.run ⟨c.api, result⟩ s (instrumented c subject free (t :: calls)) =
      SymbolicMachine.run ⟨c.api, result⟩
        ({ s with
          locals := s.locals.set free (result s.calls t.callee)
          calls := s.calls + 1 }.record (t.event result object s.calls))
        (instrumented c subject (free + 1) calls) := by
  have hslot : (UInt16.ofNat free).toNat = free :=
    UInt16.toNat_ofNat_of_lt' (Nat.lt_of_lt_of_le hroom hlimit)
  rw [instrumented, run_call hobject, hreturn, event, returns_of_some hreturn]
  simp only [List.cons_append]
  rw [SymbolicMachine.run_storeLocal (by simpa only [hslot] using hroom), hslot]
  refine SymbolicMachine.run_resultRecord hdistinct ?_ ?_ t.callee type
  · rw [List.getElem?_set_ne (Nat.ne_of_gt hsubject)]
    exact hobject
  · rw [hslot]
    exact List.getElem?_set_self hroom

/-- Running instrumented calls records an event for every call, and then the end of the test. -/
theorem run_instrumented (hobject : s.locals[subject.toNat]? = some object)
    (hsubject : subject.toNat < free) (hroom : free + calls.countP returns ≤ s.locals.length)
    (hlimit : s.locals.length ≤ Temporaries.slotLimit) :
    (SymbolicMachine.run ⟨c.api, result⟩ s (instrumented c subject free calls)).map
        SymbolicMachine.State.log =
      some ⟨s.log.events ++ (events result object s.calls calls ++ [.endTest])⟩ := by
  -- The object stays in its variable, since temporaries lie behind it.
  induction calls generalizing s free with
  | nil =>
    rw [instrumented, SymbolicMachine.run_closing hdistinct]
    rfl
  | cons t calls ih =>
    have hevents : s.log.events ++ (events result object s.calls (t :: calls) ++ [.endTest]) =
        (s.log.record (t.event result object s.calls)).events ++
          (events result object (s.calls + 1) calls ++ [.endTest]) := by
      simp [events, EventLog.record, List.zipIdx_cons]
    rw [hevents]
    cases hreturn : t.callee.returnType with
    | none =>
      rw [List.countP_cons_of_neg (by simp [returns_of_none hreturn])] at hroom
      rw [run_instrumented_plainCall hdistinct hobject hreturn]
      exact ih hobject hsubject hroom hlimit
    | some type =>
      rw [List.countP_cons_of_pos (returns_of_some hreturn)] at hroom
      rw [run_instrumented_resultCall hdistinct hobject hreturn hsubject (by omega) hlimit]
      refine ih ?_ (Nat.lt_succ_of_lt hsubject) ?_ ?_
      · exact (List.getElem?_set_ne (Nat.ne_of_gt hsubject)).trans hobject
      · simp only [SymbolicMachine.State.record, List.length_set]
        omega
      · simpa only [SymbolicMachine.State.record, List.length_set] using hlimit

end Run

end TestCall

/-! ### Instrumented tests -/

namespace MethodDefinition.HasBody

variable {m : MethodDefinition} {t : TestBody} {region : ExceptionRegion} (h : m.HasBody t region)
  (c : InstrumentConfig)
include h

/-- What the body becomes, and how many variables it has then. -/
theorem code_eq :
    m.code c region = loadString m.declaringType.name :: call c.api.startTest ::
        (.newObj, .method t.constructor) :: storeLocal t.subject ::
        (Treatment.callRecord c t.subject c.constructorSignature ++
          TestCall.instrumented c t.subject m.locals.length t.calls) ∧
      (m.instrumented c region).locals.length =
        m.locals.length + t.calls.countP TestCall.returns := by
  let p : Progress := { temporaries := { stem := c.temporaryPrefix, locals := m.locals } }
  obtain ⟨q, hq, hlength⟩ := TestCall.emits_code (c := c) (f := m.relocate c region)
    (p := { p with subject := some t.subject }) rfl h.room
  have hout : Progress.Emits c (m.relocate c region) p none m.operations.instructions
      ((.newObj, .method t.constructor) :: storeLocal t.subject ::
        (Treatment.callRecord c t.subject c.constructorSignature ++
          TestCall.instrumented c t.subject m.locals.length t.calls)) q := by
    rw [h.code]
    exact .keep OpKind.noConfusion OpKind.noConfusion rfl hq.construction
  obtain ⟨hcode, hlocals⟩ := code_of_emits h.inTry hout
  exact ⟨hcode, (congrArg List.length hlocals).trans hlength⟩

/-- The expected log is recorded. -/
theorem record_instrumented (hdistinct : c.api.entryPoints.Nodup)
    (result : ℕ → MethodRef → String) :
    SymbolicMachine.record ⟨c.api, result⟩ (m.instrumented c region) =
      some (t.log m.declaringType.name c.constructorSignature result) := by
  obtain ⟨hcode, hlocals⟩ := h.code_eq c
  have hinstructions : (m.instrumented c region).operations.instructions = m.code c region :=
    Body.instructions_packed 0 _
  let blank := List.replicate (m.instrumented c region).locals.length ""
  have hlength : blank.length = m.locals.length + t.calls.countP TestCall.returns := by
    rw [List.length_replicate, hlocals]
  have hslot : t.subject.toNat < blank.length :=
    hlength ▸ Nat.lt_of_lt_of_le h.declared (Nat.le_add_right _ _)
  -- The state behind the record of the construction: the object is in its variable.
  let s : SymbolicMachine.State := {
    locals := blank.set t.subject.toNat t.object
    objects := 1
    log := ⟨[.startTest m.declaringType.name, .plainCall t.object c.constructorSignature]⟩ }
  have hobject : s.locals[t.subject.toNat]? = some t.object := List.getElem?_set_self hslot
  rw [SymbolicMachine.record, hinstructions, hcode, SymbolicMachine.run_opening,
    SymbolicMachine.run_construction _ (by exact hslot),
    SymbolicMachine.run_callRecord hdistinct (by exact hobject)]
  have hlocals' : s.locals.length = m.locals.length + t.calls.countP TestCall.returns :=
    List.length_set.trans hlength
  exact TestCall.run_instrumented (s := s) hdistinct hobject h.declared
    (Nat.le_of_eq hlocals'.symm) (hlocals' ▸ h.room)

end MethodDefinition.HasBody

/-! ### Comparing two runs -/

namespace TestCall

theorem isCall_event (result : ℕ → MethodRef → String) (object : String) (n : ℕ)
    (call : TestCall) : (call.event result object n).IsCall := by
  rw [event]
  split_ifs <;> trivial

theorem event_of_returns {call : TestCall} (h : call.returns = true)
    (result : ℕ → MethodRef → String) (object : String) (n : ℕ) :
    call.event result object n = .resultCall object (result n call.callee) call.callee.name :=
  if_pos h

theorem getElem?_events (result : ℕ → MethodRef → String) (object : String)
    (calls : List TestCall) (n : ℕ) :
    (events result object 0 calls)[n]? = calls[n]?.map (event result object n) := by
  rw [events, List.getElem?_map, List.getElem?_zipIdx, Nat.zero_add, Option.map_map]
  rfl

end TestCall

namespace TestBody

variable {t : TestBody} {old new : ℕ → MethodRef → String} {name constructor : String} {n : ℕ}

/-- The events of a call are the same in two runs unless its results differ. -/
theorem getElem?_events_eq (h : ¬t.Differs old new n) :
    (TestCall.events old t.object 0 t.calls)[n]? =
      (TestCall.events new t.object 0 t.calls)[n]? := by
  rw [TestCall.getElem?_events, TestCall.getElem?_events]
  refine Option.map_congr fun call hcall => ?_
  rw [TestCall.event, TestCall.event]
  split_ifs with hreturns
  · by_contra hne
    exact h ⟨call, hcall, hreturns, fun heq => hne (by rw [heq])⟩
  · rfl

theorem isCall_log (result : ℕ → MethodRef → String) :
    ∀ e ∈ TraceEvent.plainCall t.object constructor ::
      TestCall.events result t.object 0 t.calls, e.IsCall := by
  simp only [List.forall_mem_cons, TestCall.events, List.forall_mem_map]
  exact ⟨trivial, fun entry _ => TestCall.isCall_event ..⟩

/-- Two runs match if no results differ. -/
theorem compare_log_of_forall (h : ∀ n, ¬t.Differs old new n) :
    (t.log name constructor old).compare (t.log name constructor new) = ⟨1, []⟩ := by
  have hevents : TestCall.events old t.object 0 t.calls = TestCall.events new t.object 0 t.calls :=
    List.ext_getElem? fun n => getElem?_events_eq (h n)
  rw [log, log, hevents]
  exact EventLog.compare_ofTest_self (isCall_log new)

/-- Two runs drift apart at the first call whose results differ. -/
theorem compare_log_of_differs {call : TestCall} (hcall : t.calls[n]? = some call)
    (hreturns : call.returns = true) (hne : old n call.callee ≠ new n call.callee)
    (hfront : ∀ k < n, ¬t.Differs old new k) :
    (t.log name constructor old).compare (t.log name constructor new) =
      ⟨0, [.event name (n + 1)
        (some (.resultCall t.object (old n call.callee) call.callee.name))
        (some (.resultCall t.object (new n call.callee) call.callee.name))]⟩ := by
  have hevent (result : ℕ → MethodRef → String) :
      (TraceEvent.plainCall t.object constructor ::
        TestCall.events result t.object 0 t.calls)[n + 1]? =
      some (.resultCall t.object (result n call.callee) call.callee.name) := by
    rw [List.getElem?_cons_succ, TestCall.getElem?_events, hcall, Option.map_some,
      TestCall.event_of_returns hreturns]
  have htake : (TestCall.events old t.object 0 t.calls).take n =
      (TestCall.events new t.object 0 t.calls).take n := by
    refine List.ext_getElem? fun k => ?_
    rw [List.getElem?_take, List.getElem?_take]
    split_ifs with hk
    · exact getElem?_events_eq (hfront k hk)
    · rfl
  refine EventLog.compare_ofTest_of_ne (isCall_log old) (isCall_log new) ?_ (hevent old)
    (hevent new) fun heq => hne (TraceEvent.resultCall.inj heq).2.1
  rw [List.take_succ_cons, List.take_succ_cons, htake]

end TestBody

/-! ### An account -/

/-- The account of the example. -/
def accountType : TypeRef := ⟨"Bank", "Account", false⟩

/-- Reads the balance of the account. -/
def accountBalance : MethodRef := ⟨accountType, "get_Balance", [], some .int32, true⟩

/-- A deposit, and then the balance is read. -/
def TestBody.account : TestBody where
  constructor := ⟨accountType, ".ctor", [], none, true⟩
  parameterless := rfl
  subject := 0
  calls := [⟨⟨accountType, "Deposit", [.int32], none, true⟩, [.int 100], rfl⟩,
    ⟨accountBalance, [], rfl⟩]

/-- The region of the example, which protects everything. -/
def accountRegion : ExceptionRegion := .catchAll 0 24 24 24

/-- The test of the account. -/
def MethodDefinition.account : MethodDefinition where
  declaringType := ⟨"Bank", "AccountTests", false⟩
  name := "Run"
  operations := Body.packed 0 TestBody.account.code
  regions := [accountRegion]
  locals := [⟨0, "account", accountType⟩]

theorem MethodDefinition.hasBody_account : account.HasBody .account accountRegion where
  injectable := {
    valid := account.validate_eq_ok_iff.1 (by rfl)
    regions := rfl
    aligned := (ExceptionRegion.exists_spans_iff _ _).1
      ⟨0, 8, 8, 8, ⟨_, rfl, rfl⟩, ⟨_, rfl, rfl⟩, ⟨_, rfl, rfl⟩, ⟨_, rfl, rfl⟩⟩ }
  code := Body.instructions_packed 0 _
  inTry := by decide
  declared := by decide
  room := by decide

/-! ### The main result -/

theorem RecordingApi.nodup_entryPoints (type : TypeRef) : (ofType type).entryPoints.Nodup := by
  simp [entryPoints, ofType]

/-- An instrumented test records the start of the test, the construction of the object, the calls
in order and the end of the test. Two runs of it match unless the results of some call differ, and
then they drift apart at the first such call. Entry points are told apart only if they differ, as
the usual ones do (`RecordingApi.nodup_entryPoints`). -/
theorem Instrumentation.onMethod_records {i : Instrumentation} {m : MethodDefinition}
    {t : TestBody} {region : ExceptionRegion} (hdistinct : i.config.api.entryPoints.Nodup)
    (h : m.HasBody t region) :
    ∃ m' tally logs, i.onMethod m = .ok ⟨m', .injected tally, logs⟩ ∧
      (∀ result, SymbolicMachine.record ⟨i.config.api, result⟩ m' =
        some (t.log m.declaringType.name i.config.constructorSignature result)) ∧
      ∀ old new : ℕ → MethodRef → String, ∃ log log',
        SymbolicMachine.record ⟨i.config.api, old⟩ m' = some log ∧
        SymbolicMachine.record ⟨i.config.api, new⟩ m' = some log' ∧
        ((∀ n, ¬t.Differs old new n) → log.compare log' = ⟨1, []⟩) ∧
        ((∃ n, t.Differs old new n) → ∃ n call, t.calls[n]? = some call ∧
          call.returns = true ∧ old n call.callee ≠ new n call.callee ∧
          (∀ k < n, ¬t.Differs old new k) ∧
          log.compare log' = ⟨0, [.event m.declaringType.name (n + 1)
            (some (.resultCall t.object (old n call.callee) call.callee.name))
            (some (.resultCall t.object (new n call.callee) call.callee.name))]⟩) := by
  classical
  obtain ⟨logs, hmethod⟩ := i.onMethod_eq_injected h.injectable
  have hrecord (result : ℕ → MethodRef → String) :=
    h.record_instrumented i.config hdistinct result
  refine ⟨_, _, logs, hmethod, hrecord, fun old new => ⟨_, _, hrecord old, hrecord new,
    TestBody.compare_log_of_forall, fun hdiffers => ?_⟩⟩
  obtain ⟨call, hcall, hreturns, hne⟩ := Nat.find_spec hdiffers
  have hfront (k : ℕ) (hk : k < Nat.find hdiffers) := Nat.find_min hdiffers hk
  exact ⟨_, call, hcall, hreturns, hne, hfront,
    TestBody.compare_log_of_differs hcall hreturns hne hfront⟩

/-- The test of the account, against a build that charges a fee. -/
theorem Instrumentation.onMethod_account_records : ∃ m' tally logs,
    RecordingApi.standard.entryPoints.Nodup ∧
      MethodDefinition.account.HasBody .account accountRegion ∧
      ({} : Instrumentation).onMethod .account = .ok ⟨m', .injected tally, logs⟩ ∧
      ∃ log log', SymbolicMachine.record ⟨.standard, fun _ _ => "100"⟩ m' = some log ∧
        SymbolicMachine.record ⟨.standard, fun _ _ => "90"⟩ m' = some log' ∧
        log = ⟨[.startTest "AccountTests", .plainCall "Account#1" ".ctor",
          .plainCall "Account#1" "Deposit", .resultCall "Account#1" "100" "get_Balance",
          .endTest]⟩ ∧
        log.compare log' = ⟨0, [.event "AccountTests" 2
          (some (.resultCall "Account#1" "100" "get_Balance"))
          (some (.resultCall "Account#1" "90" "get_Balance"))]⟩ := by
  have hdistinct : RecordingApi.standard.entryPoints.Nodup := RecordingApi.nodup_entryPoints _
  obtain ⟨m', tally, logs, hmethod, hrecord, hcompare⟩ :=
    Instrumentation.onMethod_records (i := {}) hdistinct MethodDefinition.hasBody_account
  obtain ⟨log, log', hlog, hlog', -, hdiffers⟩ :=
    hcompare (fun _ _ => "100") (fun _ _ => "90")
  obtain ⟨n, call, hcall, hreturns, -, -, hdrift⟩ :=
    hdiffers ⟨1, ⟨accountBalance, [], rfl⟩, rfl, rfl, by decide⟩
  -- Only the second of the two calls returns a value.
  obtain ⟨rfl, rfl⟩ : n = 1 ∧ call = ⟨accountBalance, [], rfl⟩ := by
    rcases n with _ | _ | n
    · cases hcall
      exact absurd hreturns (by decide)
    · cases hcall
      exact ⟨rfl, rfl⟩
    · cases hcall
  refine ⟨m', tally, logs, hdistinct, MethodDefinition.hasBody_account, hmethod, log, log', hlog,
    hlog', ?_, hdrift⟩
  exact Option.some.inj (hlog.symm.trans (hrecord _))

end BuildDrift
