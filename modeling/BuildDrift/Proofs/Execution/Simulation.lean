import BuildDrift.Proofs.Execution.Machine
import Mathlib.Order.WellFounded

/-!
# One run following another

Two frames agree when they differ in the log and in variables that no interpretation reaches. The
effects of an instruction on frames that agree are the same, also when its target has moved. A run
follows another one when it goes through matching states, at its own pace, and ends in the same
way; it is enough to catch up after every single step.

## Main definitions

* `Frame.Agrees`, `Effect.Rel`, `State.Matches`: the same up to the log and further variables.
* `Machine.Follows`: a run goes through states that match those of another run.

## Main results

* `Machine.perform_rel`: the effects of an instruction on frames that agree.
* `Machine.perform_pop_storeLocal`: a value dropped in the one run and kept in the other.
* `Machine.follows_of_step`: catching up after every step is enough.
-/

namespace BuildDrift

variable {V H X : Type*} {n : ℕ}

/-- Frames that differ in the log and behind the first `n` variables only. -/
structure Frame.Agrees (n : ℕ) (f f' : Frame V H) : Prop where
  /-- The stacks are equal. -/
  stack : f'.stack = f.stack
  /-- The heaps are equal. -/
  heap : f'.heap = f.heap
  /-- The first `n` variables are equal. -/
  locals : ∀ k < n, f'.locals k = f.locals k

/-- Effects of the same kind with related states. -/
inductive Effect.Rel {α β : Type*} (R : α → β → Prop) : Effect V X α → Effect V X β → Prop
  /-- Both go on. -/
  | next {a b} (h : R a b) : Rel R (.next a) (.next b)
  /-- Both jump. -/
  | jump {a b} (h : R a b) : Rel R (.jump a) (.jump b)
  /-- Both raise the same exception. -/
  | raise {x a b} (h : R a b) : Rel R (.raise x a) (.raise x b)
  /-- Both end with the same value. -/
  | finish {value a b} (h : R a b) : Rel R (.finish value a) (.finish value b)
  /-- Neither can be performed. -/
  | fault : Rel R .fault .fault

/-- States that match when the group of the operation at position `p` begins at `start p`. -/
inductive State.Matches (n : ℕ) (start : ℕ → ℕ) : State V H X → State V H X → Prop
  /-- The one is about to execute an operation, the other its group. -/
  | running {p : ℕ} {f f' : Frame V H} (h : f.Agrees n f') :
      Matches n start (.running p f) (.running (start p) f')
  /-- Both have ended in the same way. -/
  | ended {ending : Ending V X} {f f' : Frame V H} (h : f.Agrees n f') :
      Matches n start (.ended ending f) (.ended ending f')

/-! ### Frames that agree -/

namespace Frame.Agrees

variable {f f' : Frame V H}

/-- The log does not matter. -/
theorem log (h : f.Agrees n f') (log : List (MethodRef × List V)) :
    f.Agrees n { f' with log } :=
  ⟨h.stack, h.heap, h.locals⟩

/-- The same stack can be put in. -/
theorem withStack (h : f.Agrees n f') (stack : List V) :
    ({ f with stack } : Frame V H).Agrees n { f' with stack } :=
  ⟨rfl, h.heap, h.locals⟩

theorem push (h : f.Agrees n f') (v : V) : (f.push v).Agrees n (f'.push v) :=
  ⟨congrArg (v :: ·) h.stack, h.heap, h.locals⟩

theorem store (h : f.Agrees n f') (slot : ℕ) (v : V) :
    (f.store slot v).Agrees n (f'.store slot v) where
  stack := h.stack
  heap := h.heap
  locals k hk := by
    simp only [Frame.store]
    split_ifs
    · rfl
    · exact h.locals k hk

/-- A variable behind the first `n` does not matter. -/
theorem store_right (h : f.Agrees n f') {slot : ℕ} (hslot : n ≤ slot) (v : V) :
    f.Agrees n (f'.store slot v) where
  stack := h.stack
  heap := h.heap
  locals k hk := by
    rw [Frame.store, ← h.locals k hk]
    exact if_neg (by omega)

theorem view_eq (h : f.Agrees n f') : f'.view n = f.view n := by
  rw [Frame.view, Frame.view, h.stack, h.heap]
  congr 1
  exact funext fun k => h.locals k k.isLt

end Frame.Agrees

/-- Whatever an interpretation does, it does to both frames. -/
theorem Frame.agrees_update (f f' : Frame V H) (v : View V H n) :
    (f.update v).Agrees n (f'.update v) where
  stack := rfl
  heap := rfl
  locals k hk := by simp only [Frame.update, dif_pos hk]

/-! ### The same effects -/

namespace Machine

variable (M : Machine V H X n) {f f' : Frame V H}

theorem interpret_rel (h : f.Agrees n f') (kind : OpKind) (a : Operand) :
    Effect.Rel (Frame.Agrees n) ((M.interpret kind a (f.view n)).map f.update)
      ((M.interpret kind a (f'.view n)).map f'.update) := by
  rw [h.view_eq]
  cases M.interpret kind a (f.view n) with
  | next v => exact .next (f.agrees_update f' v)
  | jump v => exact .jump (f.agrees_update f' v)
  | raise x v => exact .raise (f.agrees_update f' v)
  | finish value v => exact .finish (f.agrees_update f' v)
  | fault => exact .fault

/-- An instruction has the same effect on frames that agree, wherever its target is. -/
theorem perform_rel (h : f.Agrees n f') {slots : ℕ} (hslots : n ≤ slots) (kind : OpKind)
    {a : Operand} (hslot : ∀ s, a = .slot s → s.toNat < n) (move : Offset → Offset) :
    Effect.Rel (Frame.Agrees n) (M.perform n (kind, a) f)
      (M.perform slots (kind, a.retarget move) f') := by
  cases kind with
  | loadLocal =>
    cases a with
    | slot s =>
      have hs := hslot s rfl
      simp only [perform, Operand.retarget, if_pos hs, if_pos (Nat.lt_of_lt_of_le hs hslots),
        h.locals _ hs]
      exact .next (h.push _)
    | _ => exact M.interpret_rel h _ _
  | storeLocal =>
    cases a with
    | slot s =>
      have hs := hslot s rfl
      simp only [perform, Operand.retarget, if_pos hs, if_pos (Nat.lt_of_lt_of_le hs hslots),
        h.stack]
      cases f.stack with
      | nil => exact .fault
      | cons v rest => exact .next ((h.store _ v).withStack rest)
    | _ => exact M.interpret_rel h _ _
  | pop =>
    simp only [perform, h.stack]
    cases f.stack with
    | nil => exact .fault
    | cons v rest => exact .next (h.withStack rest)
  | ret =>
    simp only [perform, h.stack]
    exact .finish h
  | loadString =>
    cases a with
    | text s => exact .next (h.push _)
    | _ => exact M.interpret_rel h _ _
  | box =>
    cases a with
    | type t =>
      simp only [perform, Operand.retarget, h.stack]
      cases f.stack with
      | nil => exact .fault
      | cons v rest => exact .next (h.withStack _)
    | _ => exact M.interpret_rel h _ _
  | call =>
    cases a with
    | method callee =>
      simp only [perform, Operand.retarget, h.stack]
      cases M.arity? callee with
      | none => exact M.interpret_rel h _ _
      | some k =>
        simp only
        split_ifs
        · exact .next ⟨rfl, h.heap, h.locals⟩
        · exact .fault
    | _ => exact M.interpret_rel h _ _
  | _ => cases a <;> exact M.interpret_rel h _ _

/-- Dropping a value and storing it into a further variable lead to frames that agree. -/
theorem perform_pop_storeLocal (h : f.Agrees n f') {slots : ℕ} {slot : UInt16}
    (hn : n ≤ slot.toNat) (hslots : slot.toNat < slots) (a : Operand) :
    (M.perform n (.pop, a) f = .fault ∧
      M.perform slots (.storeLocal, .slot slot) f' = .fault) ∨
    ∃ g g', M.perform n (.pop, a) f = .next g ∧
      M.perform slots (.storeLocal, .slot slot) f' = .next g' ∧ g.Agrees n g' := by
  simp only [perform, h.stack]
  cases f.stack with
  | nil => exact .inl ⟨rfl, rfl⟩
  | cons v rest =>
    refine .inr ⟨_, _, rfl, if_pos hslots, (h.store_right hn v).withStack rest⟩

end Machine

/-! ### Following -/

/-- Runs of `m'` go through states that match those of a run of `m`, in order, and end in the same
way. -/
structure Machine.Follows (M : Machine V H X n) (m m' : MethodDefinition) (start : ℕ → ℕ)
    (s s' : State V H X) : Prop where
  /-- The states of the one run match states of the other, which are later and later. -/
  pace : ∃ pace : ℕ → ℕ, StrictMono pace ∧
    ∀ t, State.Matches n start (M.run m t s) (M.run m' (pace t) s')
  /-- The one run ends if the other does, and in the same way. -/
  ends : ∀ ending, (∃ t f, M.run m t s = .ended ending f) ↔
    ∃ t f, M.run m' t s' = .ended ending f

namespace Machine

variable {M : Machine V H X n} {m m' : MethodDefinition} {start : ℕ → ℕ}

/-- A run that can catch up after every step follows. -/
theorem follows_of_step
    (hstep : ∀ s s', State.Matches n start s s' →
      ∃ k, 0 < k ∧ State.Matches n start (M.step m s) (M.run m' k s'))
    {s s' : State V H X} {first : ℕ} (hfirst : State.Matches n start s (M.run m' first s')) :
    M.Follows m m' start s s' := by
  have hnext : ∀ t k, State.Matches n start (M.run m t s) (M.run m' k s') →
      ∃ l, k < l ∧ State.Matches n start (M.run m (t + 1) s) (M.run m' l s') := by
    intro t k hmatches
    obtain ⟨l, hl, hmatches'⟩ := hstep _ _ hmatches
    rw [← run_add, ← run_succ'] at hmatches'
    exact ⟨k + l, by omega, hmatches'⟩
  choose! next hlt hmatches using hnext
  have hpace : ∀ t, State.Matches n start (M.run m t s)
      (M.run m' (Nat.rec first next t) s') := by
    intro t
    induction t with
    | zero => exact hfirst
    | succ t ih => exact hmatches t _ ih
  have hmono : StrictMono fun t => (Nat.rec first next t : ℕ) :=
    strictMono_nat_of_lt_succ fun t => hlt t _ (hpace t)
  refine ⟨⟨_, hmono, hpace⟩, fun ending => ⟨?_, ?_⟩⟩
  · rintro ⟨t, f, hend⟩
    have hmatch := hpace t
    rw [hend] at hmatch
    generalize hs' : M.run m' (Nat.rec first next t) s' = s'' at hmatch
    cases hmatch with
    | ended h => exact ⟨_, _, hs'⟩
  · rintro ⟨t, f, hend⟩
    -- a strictly increasing pace has passed the end by then
    have hle : t ≤ Nat.rec first next t := hmono.le_apply
    obtain ⟨rest, hrest⟩ := Nat.exists_eq_add_of_le hle
    have hmatch := hpace t
    rw [hrest, run_add, hend, run_ended] at hmatch
    generalize hs : M.run m t s = s'' at hmatch
    cases hmatch with
    | ended h => exact ⟨_, _, hs⟩

end Machine

end BuildDrift
