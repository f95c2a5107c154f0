import BuildDrift.Proofs.Instrumentation.Placement
import BuildDrift.Trace.Log

/-!
# Running instrumented tests on texts

A small machine runs the body of a test on texts, from the first operation to the first return.
Objects are texts made of a type and a number, calls take their arguments and leave a result that
is given beforehand, and a call of an entry point of the recording API adds an event to a log.
Whatever else an operation does, it leaves the text of its operand.

The machine stops without a log at a local variable that is not declared. An empty stack does not
stop it; what is taken from there is the empty text.

## Main definitions

* `SymbolicMachine`: the recording API and the results of calls.
* `SymbolicMachine.State`: the stack, the local variables and the log.
* `SymbolicMachine.perform`, `SymbolicMachine.run`: single instructions and lines of them.
* `SymbolicMachine.record`: the log of a method.

## Main results

* `SymbolicMachine.run_opening`, `run_callRecord`, `run_resultRecord`, `run_closing`: what injected
  instructions do.
-/

namespace BuildDrift

open Instruction

/-- A machine that runs bodies on texts. -/
structure SymbolicMachine where
  /-- What is called to record events. -/
  api : RecordingApi
  /-- The result of the `n`-th call on an object, counted from zero. -/
  result : ℕ → MethodRef → String

namespace SymbolicMachine

/-- What a machine works on. -/
structure State where
  /-- The evaluation stack, its top first. -/
  stack : List String := []
  /-- The local variables. -/
  locals : List String
  /-- How many objects have been constructed. -/
  objects : ℕ := 0
  /-- How many calls on objects have been made. -/
  calls : ℕ := 0
  /-- What has been recorded. -/
  log : EventLog := {}

namespace State

/-- A value on top of the stack. -/
def push (s : State) (value : String) : State :=
  { s with stack := value :: s.stack }

/-- The value below the `n` topmost ones; below the stack, the empty text. -/
def peek (s : State) (n : ℕ) : String :=
  s.stack.getD n ""

/-- The topmost values are taken from the stack. -/
def drop (s : State) (n : ℕ) : State :=
  { s with stack := s.stack.drop n }

/-- An event is recorded. -/
def record (s : State) (e : TraceEvent) : State :=
  { s with log := s.log.record e }

end State

variable (M : SymbolicMachine)

/-- An entry point is called: its arguments are recorded. -/
def dispatch (callee : MethodRef) (s : State) : State :=
  if callee = M.api.startTest then (s.drop 1).record (.startTest (s.peek 0))
  else if callee = M.api.endTest then s.record .endTest
  else if callee = M.api.recordCall then (s.drop 2).record (.plainCall (s.peek 1) (s.peek 0))
  else (s.drop 3).record (.resultCall (s.peek 2) (s.peek 1) (s.peek 0))

/-- The `n`-th object, counted from one: its type and its number. -/
def objectText (constructor : MethodRef) (n : ℕ) : String :=
  constructor.declaringType.name ++ "#" ++ toString n

/-- An object is constructed. -/
def construct (constructor : MethodRef) (s : State) : State :=
  { s with objects := s.objects + 1 }.push (objectText constructor (s.objects + 1))

/-- A call on an object, which takes the arguments and the object from the stack. -/
def invoke (callee : MethodRef) (s : State) : State :=
  let called := { s.drop (callee.parameters.length + 1) with calls := s.calls + 1 }
  if callee.isVoid then called else called.push (M.result s.calls callee)

/-- What an instruction does; nothing if its local variable is not declared. -/
def perform (s : State) : Instruction → Option State
  | (.loadString, .text value) => some (s.push value)
  | (.loadLocal, .slot index) => s.locals[index.toNat]?.map s.push
  | (.storeLocal, .slot index) =>
    if index.toNat < s.locals.length then
      some { s.drop 1 with locals := s.locals.set index.toNat (s.peek 0) }
    else none
  | (.newObj, .method constructor) => some (construct constructor s)
  | (.call, .method callee) =>
    some (if M.api.isEntryPoint callee then M.dispatch callee s else s.push callee.signature)
  | (.callVirt, .method callee) => some (M.invoke callee s)
  | (.pop, _) => some (s.drop 1)
  | (.box, _) => some s
  | (_, operand) => some (s.push (operand.text?.getD ""))

/-- Runs instructions up to the first return. -/
def run (s : State) : List Instruction → Option State
  | [] => some s
  | i :: code => if i.1 = .ret then some s else (M.perform s i).bind fun t => run t code

/-- The log of a method: its local variables are empty at first. -/
def record (m : MethodDefinition) : Option EventLog :=
  (M.run { locals := List.replicate m.locals.length "" } m.operations.instructions).map State.log

/-! ### Lines of instructions -/

variable {M} {s : State} {code : List Instruction}

theorem run_cons {i : Instruction} (hi : i.1 ≠ .ret) :
    M.run s (i :: code) = (M.perform s i).bind fun t => M.run t code := by
  rw [run, if_neg hi]

@[simp] theorem run_loadString (value : String) :
    M.run s (loadString value :: code) = M.run (s.push value) code :=
  run_cons OpKind.noConfusion

theorem run_loadLocal {slot : UInt16} {value : String} (h : s.locals[slot.toNat]? = some value) :
    M.run s (loadLocal slot :: code) = M.run (s.push value) code := by
  rw [run_cons OpKind.noConfusion, loadLocal, perform, h]
  rfl

theorem run_storeLocal {slot : UInt16} (h : slot.toNat < s.locals.length) :
    M.run s (storeLocal slot :: code) =
      M.run { s.drop 1 with locals := s.locals.set slot.toNat (s.peek 0) } code := by
  rw [run_cons OpKind.noConfusion, storeLocal, perform, if_pos h]
  rfl

/-- An object is constructed and stored. -/
theorem run_construction (constructor : MethodRef) {slot : UInt16}
    (h : slot.toNat < s.locals.length) :
    M.run s ((.newObj, .method constructor) :: storeLocal slot :: code) =
      M.run { s with
        locals := s.locals.set slot.toNat (objectText constructor (s.objects + 1))
        objects := s.objects + 1 } code := by
  rw [run_cons OpKind.noConfusion, perform, Option.bind_some, run_storeLocal (by exact h)]
  rfl

theorem run_callVirt (callee : MethodRef) :
    M.run s ((.callVirt, .method callee) :: code) = M.run (M.invoke callee s) code :=
  run_cons OpKind.noConfusion

theorem run_call {callee : MethodRef} (h : callee ∈ M.api.entryPoints) :
    M.run s (call callee :: code) = M.run (M.dispatch callee s) code := by
  have hcontains : M.api.isEntryPoint callee = true := by simpa [RecordingApi.isEntryPoint] using h
  rw [run_cons OpKind.noConfusion, call, perform, if_pos hcontains]
  rfl

/-! ### Injected instructions -/

section Injected

variable {c : InstrumentConfig} {result : ℕ → MethodRef → String}
  (hdistinct : c.api.entryPoints.Nodup)

theorem run_opening (name : String) :
    run ⟨c.api, result⟩ s (loadString name :: call c.api.startTest :: code) =
      run ⟨c.api, result⟩ (s.record (.startTest name)) code := by
  rw [run_loadString, run_call (by simp [RecordingApi.entryPoints]), dispatch, if_pos rfl]
  rfl

include hdistinct

private theorem entryPoints_ne : c.api.endTest ≠ c.api.startTest ∧
    (c.api.recordCall ≠ c.api.startTest ∧ c.api.recordCall ≠ c.api.endTest) ∧
    c.api.recordResult ≠ c.api.startTest ∧ c.api.recordResult ≠ c.api.endTest ∧
      c.api.recordResult ≠ c.api.recordCall := by
  simp only [RecordingApi.entryPoints, List.nodup_cons, List.mem_cons, List.not_mem_nil,
    not_or, or_false] at hdistinct
  obtain ⟨⟨h₁, h₂, h₃⟩, ⟨h₄, h₅⟩, h₆, -⟩ := hdistinct
  exact ⟨Ne.symm h₁, ⟨Ne.symm h₂, Ne.symm h₄⟩, Ne.symm h₃, Ne.symm h₅, Ne.symm h₆⟩

theorem run_closing :
    run ⟨c.api, result⟩ s [call c.api.endTest, (.ret, .none)] = some (s.record .endTest) := by
  obtain ⟨hne, -⟩ := entryPoints_ne hdistinct
  rw [run_call (by simp [RecordingApi.entryPoints]), dispatch, if_neg hne, if_pos rfl]
  rfl

variable {subject temporary : UInt16} {object value : String}
  (hobject : s.locals[subject.toNat]? = some object)
include hobject

theorem run_callRecord (callee : String) :
    run ⟨c.api, result⟩ s (Treatment.callRecord c subject callee ++ code) =
      run ⟨c.api, result⟩ (s.record (.plainCall object callee)) code := by
  obtain ⟨-, ⟨hstart, hend⟩, -⟩ := entryPoints_ne hdistinct
  simp only [Treatment.callRecord, List.cons_append, List.nil_append]
  rw [run_loadLocal hobject, run_loadString, run_call (by simp [RecordingApi.entryPoints]),
    dispatch, if_neg hstart, if_neg hend, if_pos rfl]
  rfl

theorem run_resultRecord (hvalue : s.locals[temporary.toNat]? = some value) (callee : MethodRef)
    (type : TypeRef) :
    run ⟨c.api, result⟩ s (Treatment.resultRecord c subject temporary callee type ++ code) =
      run ⟨c.api, result⟩ (s.record (.resultCall object value callee.name)) code := by
  obtain ⟨-, -, hstart, hend, hcall⟩ := entryPoints_ne hdistinct
  have hbox (t : State) (code : List Instruction) :
      run ⟨c.api, result⟩ t ((if type.isValueType then [(.box, .type type)] else []) ++ code) =
        run ⟨c.api, result⟩ t code := by
    split_ifs
    · exact run_cons OpKind.noConfusion
    · rfl
  simp only [Treatment.resultRecord, List.cons_append, List.nil_append, List.append_assoc]
  rw [run_loadLocal hobject, run_loadLocal (s := s.push object) hvalue, hbox, run_loadString,
    run_call (by simp [RecordingApi.entryPoints]), dispatch, if_neg hstart, if_neg hend,
    if_neg hcall]
  rfl

end Injected

end SymbolicMachine

end BuildDrift
