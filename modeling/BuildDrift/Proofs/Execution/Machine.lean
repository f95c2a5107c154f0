import BuildDrift.Proofs.Code.Packed
import Mathlib.Logic.Function.Iterate

/-!
# An abstract machine for bodies

Bodies run on a stack, local variables and a heap. What calls, constructions, branches and all
other instructions do is left open: an interpretation gives their effect on the stack, the heap and
the first few variables. It sees everything of an instruction but its target, which only says where
a jump goes. Loads and stores of variables, drops, returns, loads of strings and boxing are fixed,
and so are calls of methods that only log their arguments. Nothing reads the log. An exception that
an operation raises goes to the handler of a region that protects the operation, and otherwise
leaves the body.

## Main definitions

* `View`, `Effect`, `Machine`: what an interpretation sees and does.
* `Frame`, `State`: the states of a run.
* `Machine.perform`: the effect of an instruction.
* `Machine.step`, `Machine.run`: steps and runs of a method.
* `Machine.Quiet`: instructions that do nothing but log.

## Main results

* `Machine.run_straight`: instructions one behind the other.
* `MethodDefinition.landing?_of_hasOffset`, `MethodDefinition.landing?_codeSize`: where a jump
  lands.
-/

namespace BuildDrift

/-! ### Machines -/

/-- The part of a frame that instructions are interpreted on. -/
structure View (V H : Type*) (n : ℕ) where
  /-- The evaluation stack, topmost value first. -/
  stack : List V
  /-- The heap. -/
  heap : H
  /-- The variables. -/
  locals : Fin n → V

/-- What an instruction leads to. -/
inductive Effect (V X α : Type*) where
  /-- The instruction behind is next. -/
  | next (a : α)
  /-- The target is next. -/
  | jump (a : α)
  /-- An exception is raised. -/
  | raise (x : X) (a : α)
  /-- The body ends. -/
  | finish (value : Option V) (a : α)
  /-- The instruction cannot be performed. -/
  | fault

/-- An interpretation of instructions, which reaches the first `n` variables. -/
structure Machine (V H X : Type*) (n : ℕ) where
  /-- The value of a string. -/
  text : String → V
  /-- A value of a type as an object. -/
  boxed : TypeRef → V → V
  /-- How many arguments a method takes that only logs them. -/
  arity? : MethodRef → Option ℕ
  /-- The effect of any other instruction. -/
  interpret : OpKind → Operand → View V H n → Effect V X (View V H n)
  /-- The stack with which a handler begins, if it takes an exception. -/
  handle : HandlerKind → Option TypeRef → X → Option (List V)

/-- The state of a body that runs. -/
structure Frame (V H : Type*) where
  /-- The evaluation stack, topmost value first. -/
  stack : List V
  /-- The heap. -/
  heap : H
  /-- The variables. -/
  locals : ℕ → V
  /-- What has been logged. -/
  log : List (MethodRef × List V)

/-- How a run ends. -/
inductive Ending (V X : Type*) where
  /-- The body returns. -/
  | returned (value : Option V)
  /-- There is no operation any more. -/
  | fellOff
  /-- An exception leaves the body. -/
  | unhandled (x : X)
  /-- An operation cannot be performed. -/
  | faulted

/-- The state of a run: it goes on at a position or has ended. -/
inductive State (V H X : Type*) where
  /-- The operation at a position is next. -/
  | running (position : ℕ) (frame : Frame V H)
  /-- The run has ended. -/
  | ended (ending : Ending V X) (frame : Frame V H)

variable {V H X : Type*} {n : ℕ}

namespace Effect

/-- The effect with its states mapped. -/
def map {α β : Type*} (f : α → β) : Effect V X α → Effect V X β
  | next a => next (f a)
  | jump a => jump (f a)
  | raise x a => raise x (f a)
  | finish value a => finish value (f a)
  | fault => fault

end Effect

namespace Frame

/-- What instructions are interpreted on. -/
def view (n : ℕ) (f : Frame V H) : View V H n :=
  ⟨f.stack, f.heap, fun k => f.locals k⟩

/-- The frame after an instruction has been interpreted. -/
def update (f : Frame V H) (v : View V H n) : Frame V H :=
  { f with
    stack := v.stack
    heap := v.heap
    locals := fun k => if h : k < n then v.locals ⟨k, h⟩ else f.locals k }

/-- The frame with a value on the stack. -/
def push (f : Frame V H) (v : V) : Frame V H :=
  { f with stack := v :: f.stack }

/-- The frame with a value in a variable. -/
def store (f : Frame V H) (slot : ℕ) (v : V) : Frame V H :=
  { f with locals := fun k => if k = slot then v else f.locals k }

end Frame

/-! ### Steps -/

namespace MethodDefinition

/-- The position at which a jump to a target lands; at the end of the body there is no
operation. -/
def landing? (m : MethodDefinition) (target : Offset) : Option ℕ :=
  match m.operations.findIdx? fun o => o.offset = target with
  | some position => some position
  | none => if target = m.codeSize then some m.operations.length else none

end MethodDefinition

namespace Machine

variable (M : Machine V H X n)

/-- The effect of an instruction in a body with a number of variables. -/
def perform (slots : ℕ) (i : Instruction) (f : Frame V H) : Effect V X (Frame V H) :=
  match i with
  | (.loadLocal, .slot slot) =>
    if slot.toNat < slots then .next (f.push (f.locals slot.toNat)) else .fault
  | (.storeLocal, .slot slot) =>
    match f.stack with
    | [] => .fault
    | v :: rest =>
      if slot.toNat < slots then .next { f.store slot.toNat v with stack := rest } else .fault
  | (.pop, _) =>
    match f.stack with
    | [] => .fault
    | _ :: rest => .next { f with stack := rest }
  | (.ret, _) => .finish f.stack.head? f
  | (.loadString, .text s) => .next (f.push (M.text s))
  | (.box, .type t) =>
    match f.stack with
    | [] => .fault
    | v :: rest => .next { f with stack := M.boxed t v :: rest }
  | (.call, .method callee) =>
    match M.arity? callee with
    | some k =>
      if k ≤ f.stack.length then
        .next { f with
          stack := f.stack.drop k
          log := f.log ++ [(callee, f.stack.take k)] }
      else .fault
    | none => (M.interpret .call (.method callee) (f.view n)).map f.update
  | (kind, a) => (M.interpret kind (a.retarget fun _ => 0) (f.view n)).map f.update

/-- The handler that takes an exception of an operation, with the stack with which it begins. -/
def handler? (m : MethodDefinition) (o : Operation) (x : X) : Option (List V × Offset) :=
  m.regions.findSome? fun r =>
    if r.inTry o.offset then (M.handle r.kind r.caught x).map fun stack => (stack, r.handlerStart)
    else none

/-- The state after the operation at a position has had its effect. -/
def proceed (m : MethodDefinition) (position : ℕ) (o : Operation) (f : Frame V H) :
    Effect V X (Frame V H) → State V H X
  | .next g => .running (position + 1) g
  | .jump g =>
    match o.target?.bind m.landing? with
    | some q => .running q g
    | none => .ended .faulted g
  | .raise x g =>
    match M.handler? m o x with
    | some (stack, start) =>
      match m.landing? start with
      | some q => .running q { g with stack }
      | none => .ended .faulted g
    | none => .ended (.unhandled x) g
  | .finish value g => .ended (.returned value) g
  | .fault => .ended .faulted f

/-- One step of a method; nothing follows the end of a run. -/
def step (m : MethodDefinition) : State V H X → State V H X
  | .ended ending f => .ended ending f
  | .running position f =>
    match m.operations[position]? with
    | none => .ended .fellOff f
    | some o => M.proceed m position o f (M.perform m.locals.length o.instruction f)

/-- A number of steps of a method. -/
def run (m : MethodDefinition) (steps : ℕ) (s : State V H X) : State V H X :=
  (M.step m)^[steps] s

variable {M} {m : MethodDefinition}

theorem run_zero (s : State V H X) : M.run m 0 s = s := rfl

theorem run_succ (t : ℕ) (s : State V H X) : M.run m (t + 1) s = M.run m t (M.step m s) :=
  Function.iterate_succ_apply _ t s

theorem run_succ' (t : ℕ) (s : State V H X) : M.run m (t + 1) s = M.step m (M.run m t s) :=
  Function.iterate_succ_apply' _ t s

theorem run_add (t u : ℕ) (s : State V H X) : M.run m (t + u) s = M.run m u (M.run m t s) := by
  rw [run, Nat.add_comm, Function.iterate_add_apply]
  rfl

theorem step_of_getElem? {position : ℕ} {o : Operation} (f : Frame V H)
    (h : m.operations[position]? = some o) : M.step m (.running position f) =
      M.proceed m position o f (M.perform m.locals.length o.instruction f) := by
  rw [step, h]

/-- A run that has ended stays as it is. -/
theorem run_ended (t : ℕ) (ending : Ending V X) (f : Frame V H) :
    M.run m t (.ended ending f) = .ended ending f := by
  induction t with
  | zero => rfl
  | succ t ih =>
    rw [run_succ]
    exact ih

/-! ### Straight lines -/

/-- Instructions one behind the other, as long as none of them leaves the line. -/
def performAll (M : Machine V H X n) (slots : ℕ) :
    List Instruction → Frame V H → Option (Frame V H)
  | [], f => some f
  | i :: code, f =>
    match M.perform slots i f with
    | .next g => performAll M slots code g
    | _ => none

/-- Instructions that do nothing but log. -/
def Quiet (M : Machine V H X n) (slots : ℕ) (code : List Instruction) : Prop :=
  ∀ f : Frame V H, ∃ log, M.performAll slots code f = some { f with log }

theorem performAll_append {slots : ℕ} (l₁ l₂ : List Instruction) (f : Frame V H) :
    M.performAll slots (l₁ ++ l₂) f =
      (M.performAll slots l₁ f).bind fun g => M.performAll slots l₂ g := by
  induction l₁ generalizing f with
  | nil => rfl
  | cons i l₁ ih =>
    rw [List.cons_append, performAll, performAll]
    cases M.perform slots i f with
    | next g => exact ih g
    | _ => rfl

theorem quiet_nil {slots : ℕ} : M.Quiet slots [] := fun f => ⟨f.log, rfl⟩

theorem Quiet.append {slots : ℕ} {l₁ l₂ : List Instruction} (h₁ : M.Quiet slots l₁)
    (h₂ : M.Quiet slots l₂) : M.Quiet slots (l₁ ++ l₂) := by
  intro f
  obtain ⟨log₁, hlog₁⟩ := h₁ f
  obtain ⟨log₂, hlog₂⟩ := h₂ { f with log := log₁ }
  exact ⟨log₂, by rw [performAll_append, hlog₁, Option.bind_some, hlog₂]⟩

/-- A line of instructions is performed in as many steps. -/
theorem run_straight {q : ℕ} {code rest : List Instruction}
    (hcode : m.operations.instructions.drop q = code ++ rest) {f g : Frame V H}
    (hall : M.performAll m.locals.length code f = some g) :
    M.run m code.length (.running q f) = .running (q + code.length) g := by
  induction code generalizing q f with
  | nil =>
    cases hall
    rfl
  | cons i code ih =>
    have hinstruction : m.operations.instructions[q]? = some i := by
      rw [← Nat.add_zero q, ← List.getElem?_drop, hcode]
      rfl
    rw [Body.instructions, List.getElem?_map, Option.map_eq_some_iff] at hinstruction
    obtain ⟨o, ho, rfl⟩ := hinstruction
    have hrest : m.operations.instructions.drop (q + 1) = code ++ rest := by
      rw [← List.drop_drop, hcode]
      rfl
    rw [performAll] at hall
    rw [List.length_cons, run_succ, step_of_getElem? f ho]
    generalize M.perform m.locals.length o.instruction f = effect at hall
    cases effect with
    | next h =>
      rw [proceed, ih hrest hall, Nat.add_assoc, Nat.add_comm 1]
    | _ => cases hall

end Machine

/-! ### Jumps -/

namespace MethodDefinition

variable {m : MethodDefinition}

/-- A jump to an operation of an ordered body lands at its position. -/
theorem landing?_of_hasOffset (hm : m.operations.Ordered) {position : ℕ} {target : Offset}
    (h : m.operations.HasOffset position target) : m.landing? target = some position := by
  rw [landing?, hm.findIdx?_eq_some h]

/-- A jump to the end of a body at which nothing stands lands behind the last operation. -/
theorem landing?_codeSize (hm : ∀ o ∈ m.operations, o.offset ≠ m.codeSize) :
    m.landing? m.codeSize = some m.operations.length := by
  have hfind : m.operations.findIdx? (fun o => o.offset = m.codeSize) = none :=
    List.findIdx?_eq_none_iff.2 fun o ho => by simpa using hm o ho
  rw [landing?, hfind, if_pos rfl]

end MethodDefinition

end BuildDrift
