import BuildDrift.Proofs.Comparison.Body
import BuildDrift.Proofs.Execution.Machine
import Mathlib.Tactic.IntervalCases

/-!
# Identical bodies run in lockstep

An interpretation gives the effect of an instruction on states of any kind. It sees all of the
instruction; but a target is an offset, which depends on where operations stand, so it does not
look at a target, and only says whether to jump there. A jump that leads to no operation and not to
the end of the body is a fault. Bodies that are found identical have the same runs under every
interpretation. If all targets lead somewhere, bodies that are not found identical can be told
apart, and one interpretation is enough for it.

## Main definitions

* `Interpreter`: an interpretation of instructions.
* `Stage`: the stages of a run; `Interpreter.step`, `Interpreter.run`: steps and runs of a body.
* `Body.landing?`: the position at which a jump lands.
* `Interpreter.probe`: the interpretation that keeps the latest instruction and always jumps.

## Main results

* `Interpreter.run_eq`: bodies that are alike have the same runs.
* `Interpreter.alike_of_probe`: bodies that the probe cannot tell apart are alike.
* `Body.compare_lockstep`: bodies are found identical when they run in lockstep.
-/

namespace BuildDrift

/-- An interpretation of instructions on states. -/
structure Interpreter (V X S : Type*) where
  /-- The effect of an instruction. -/
  interpret : OpKind → Operand → S → Effect V X S
  /-- The effect does not depend on where a target is. -/
  interpret_target : ∀ kind t t' s, interpret kind (.target t) s = interpret kind (.target t') s

/-- The stage of a run: it goes on at a position or has ended. -/
inductive Stage (V X S : Type*) where
  /-- The operation at a position is next. -/
  | running (position : ℕ) (s : S)
  /-- The run has ended. -/
  | ended (ending : Ending V X) (s : S)

namespace Body

/-- The position at which a jump to a target lands; at the end of the body there is no
operation. -/
def landing? (body : Body) (target : Offset) : Option ℕ :=
  match body.findIdx? fun o => o.offset = target with
  | some position => some position
  | none => if some target = body.codeEnd? then some body.length else none

/-- Every target is an operation or the end of the body. -/
def Closed (body : Body) : Prop :=
  ∀ o ∈ body, ∀ t, o.operand = .target t → (body.landing? t).isSome

end Body

namespace Interpreter

variable {V X S : Type*} (I : Interpreter V X S)

/-- The stage after the operation at a position has had its effect. -/
def proceed (body : Body) (position : ℕ) (o : Operation) (s : S) : Effect V X S → Stage V X S
  | .next s' => .running (position + 1) s'
  | .jump s' =>
    match o.target?.bind body.landing? with
    | some q => .running q s'
    | none => .ended .faulted s'
  | .raise x s' => .ended (.unhandled x) s'
  | .finish value s' => .ended (.returned value) s'
  | .fault => .ended .faulted s

/-- One step of a body; nothing follows the end of a run. -/
def step (body : Body) : Stage V X S → Stage V X S
  | .ended ending s => .ended ending s
  | .running position s =>
    match body[position]? with
    | none => .ended .fellOff s
    | some o => proceed body position o s (I.interpret o.kind o.operand s)

/-- A number of steps of a body. -/
def run (body : Body) (steps : ℕ) (σ : Stage V X S) : Stage V X S :=
  (I.step body)^[steps] σ

end Interpreter

/-! ### Where jumps land -/

/-- The position of a destination in a body of a length. -/
def Destination.position? (length : ℕ) : Destination → Option ℕ
  | position index => some index
  | codeEnd => some length
  | nowhere _ => none

/-- A jump lands at the destination of its target. -/
theorem Body.Ordered.landing?_eq {body : Body} (hb : body.Ordered) (t : Offset) :
    body.landing? t = (body.destination t).position? body.length := by
  by_cases h : ∃ k, body.HasOffset k t
  · obtain ⟨k, hk⟩ := h
    rw [landing?, hb.findIdx?_eq_some hk, hb.destination_eq_position_iff.2 hk]
    rfl
  · have hne : ∀ o ∈ body, o.offset ≠ t := by
      rintro o ho rfl
      obtain ⟨k, hk⟩ := List.mem_iff_getElem?.1 ho
      exact h ⟨k, o, hk, rfl⟩
    have hfind : body.findIdx? (fun o => o.offset = t) = none :=
      List.findIdx?_eq_none_iff.2 fun o ho => by simpa using hne o ho
    rw [landing?, hfind, destination_of_forall_ne hne]
    simp only
    split_ifs <;> rfl

/-! ### Lockstep -/

namespace Interpreter

variable {V X S : Type*} (I : Interpreter V X S) {old new : Body}

/-- An operation has the same effect in both bodies, and leads to the same place. -/
theorem proceed_eq (hold : old.Ordered) (hnew : new.Ordered) (hlength : old.length = new.length)
    {o p : Operation} (hkind : o.kind = p.kind)
    (hoperand : Operand.Alike old.destination new.destination o.operand p.operand)
    (position : ℕ) (s : S) :
    proceed old position o s (I.interpret o.kind o.operand s) =
      proceed new position p s (I.interpret p.kind p.operand s) := by
  have hlanding : o.target?.bind old.landing? = p.target?.bind new.landing? := by
    rw [Operation.target?, Operation.target?]
    generalize o.operand = a at hoperand
    generalize p.operand = b at hoperand
    cases hoperand with
    | same h =>
      cases a with
      | target t => exact absurd rfl (h t)
      | _ => rfl
    | @target t t' h =>
      simp only [Option.bind_some]
      rw [hold.landing?_eq, hnew.landing?_eq, h, hlength]
  have heffect : I.interpret o.kind o.operand s = I.interpret p.kind p.operand s := by
    rw [hkind]
    generalize o.operand = a at hoperand
    generalize p.operand = b at hoperand
    cases hoperand with
    | same h => rfl
    | target h => exact I.interpret_target ..
  rw [heffect]
  cases I.interpret p.kind p.operand s with
  | jump s' => rw [proceed, proceed, hlanding]
  | _ => rfl

/-- Bodies that are alike have the same steps. -/
theorem step_eq (hold : old.Ordered) (hnew : new.Ordered) (h : old.Alike new)
    (σ : Stage V X S) : I.step old σ = I.step new σ := by
  cases σ with
  | ended ending s => rfl
  | running position s =>
    rw [step, step]
    by_cases hlt : position < old.length
    · have ho := List.getElem?_eq_getElem hlt
      have hp := List.getElem?_eq_getElem (h.length ▸ hlt)
      rw [ho, hp]
      exact I.proceed_eq hold hnew h.length (h.kind position _ _ ho hp)
        (h.operand position _ _ ho hp) position s
    · rw [List.getElem?_eq_none (Nat.not_lt.1 hlt),
        List.getElem?_eq_none (h.length ▸ Nat.not_lt.1 hlt)]

/-- Bodies that are alike have the same runs. -/
theorem run_eq (hold : old.Ordered) (hnew : new.Ordered) (h : old.Alike new) (steps : ℕ)
    (σ : Stage V X S) : I.run old steps σ = I.run new steps σ := by
  rw [run, run, funext (I.step_eq hold hnew h)]

end Interpreter

/-! ### Telling bodies apart -/

/-- The state of a run. -/
def Stage.state {V X S : Type*} : Stage V X S → S
  | running _ s => s
  | ended _ s => s

/-- The instruction without its target. -/
def Operation.untargeted (o : Operation) : Instruction :=
  (o.kind, o.operand.retarget fun _ => 0)

/-- Instructions are the same without their targets when they are the same, or both have one. -/
theorem Operation.untargeted_inj {o p : Operation} (h : o.untargeted = p.untargeted) :
    o.kind = p.kind ∧ ((∃ t t', o.operand = .target t ∧ p.operand = .target t') ∨
      (∀ t, o.operand ≠ .target t) ∧ o.operand = p.operand) := by
  obtain ⟨hkind, hoperand⟩ := Prod.mk.inj h
  refine ⟨hkind, ?_⟩
  generalize o.operand = a at hoperand
  generalize p.operand = b at hoperand
  cases a with
  | target t =>
    cases b with
    | target t' => exact .inl ⟨t, t', rfl, rfl⟩
    | _ => exact Operand.noConfusion hoperand
  | _ =>
    cases b with
    | target t' => exact Operand.noConfusion hoperand
    | _ => exact .inr ⟨fun _ => Operand.noConfusion, hoperand⟩

/-- The destination of a target is determined by where a jump to it lands. -/
theorem Body.Ordered.destination_of_landing? {body : Body} (hb : body.Ordered) {t : Offset} {q : ℕ}
    (h : body.landing? t = some q) :
    body.destination t = if q < body.length then .position q else .codeEnd := by
  rw [hb.landing?_eq] at h
  cases hd : body.destination t with
  | position k =>
    obtain ⟨o, ho, -⟩ := hb.destination_eq_position_iff.1 hd
    rw [hd, Destination.position?, Option.some.injEq] at h
    rw [← h, if_pos (List.getElem?_eq_some_iff.1 ho).1]
  | codeEnd =>
    rw [hd, Destination.position?, Option.some.injEq] at h
    rw [← h, if_neg (Nat.lt_irrefl _)]
  | nowhere t' =>
    rw [hd, Destination.position?] at h
    exact absurd h (by simp)

namespace Interpreter

variable {old new : Body}

/-- The interpretation that keeps the latest instruction and always jumps. -/
def probe : Interpreter Unit Unit (Option Instruction) where
  interpret kind a _ := .jump (some (kind, a.retarget fun _ => 0))
  interpret_target _ _ _ _ := rfl

theorem state_step_probe (body : Body) (k : ℕ) :
    (probe.step body (.running k none)).state = body[k]?.map Operation.untargeted := by
  cases h : body[k]? with
  | none => simp only [step, h]; rfl
  | some o =>
    simp only [step, h, probe, proceed]
    cases o.target?.bind body.landing? <;> rfl

/-- Where an operation jumps to shows. -/
theorem step_probe_of_target {body : Body} {k q : ℕ} {o : Operation} {t : Offset}
    (ho : body[k]? = some o) (ht : o.operand = .target t) (hq : body.landing? t = some q) :
    probe.step body (.running k none) = .running q (some o.untargeted) := by
  have hlanding : o.target?.bind body.landing? = some q := by
    rw [Operation.target?, ht]
    exact hq
  simp only [step, ho, probe, proceed, hlanding]
  rfl

/-- Bodies in which every target leads somewhere are alike, if the probe cannot tell them apart. -/
theorem alike_of_probe (hold : old.Ordered) (hnew : new.Ordered) (hold' : old.Closed)
    (hnew' : new.Closed) (h : ∀ σ, probe.step old σ = probe.step new σ) : old.Alike new := by
  have huntargeted (k : ℕ) : old[k]?.map Operation.untargeted =
      new[k]?.map Operation.untargeted := by
    rw [← state_step_probe, ← state_step_probe, h]
  have hlength : old.length = new.length := by
    have hmap : old.map Operation.untargeted = new.map Operation.untargeted :=
      List.ext_getElem? fun k => by rw [List.getElem?_map, List.getElem?_map, huntargeted]
    simpa using congrArg List.length hmap
  have hpair (k : ℕ) (o p : Operation) (ho : old[k]? = some o) (hp : new[k]? = some p) :
      o.untargeted = p.untargeted := by
    simpa [ho, hp] using huntargeted k
  refine ⟨hlength, fun k o p ho hp => (Operation.untargeted_inj (hpair k o p ho hp)).1,
    fun k o p ho hp => ?_⟩
  rcases (Operation.untargeted_inj (hpair k o p ho hp)).2 with ⟨s, t, hs, ht⟩ | ⟨hnone, heq⟩
  · obtain ⟨q, hq⟩ := Option.isSome_iff_exists.1 (hold' o (List.mem_of_getElem? ho) s hs)
    obtain ⟨q', hq'⟩ := Option.isSome_iff_exists.1 (hnew' p (List.mem_of_getElem? hp) t ht)
    have hstage := h (.running k none)
    rw [step_probe_of_target ho hs hq, step_probe_of_target hp ht hq'] at hstage
    obtain ⟨rfl, -⟩ := Stage.running.inj hstage
    rw [hs, ht]
    refine .target ?_
    rw [hold.destination_of_landing? hq, hnew.destination_of_landing? hq', hlength]
  · rw [← heq]
    exact .same hnone

end Interpreter

namespace Body

universe u v w

/-- Bodies that are found identical run in lockstep under every interpretation: from the same
stage on, after every number of steps, they are at the same position with the same state, or have
ended in the same way. And bodies in which every target leads somewhere are found identical, if
the probe runs in lockstep. -/
theorem compare_lockstep {old new : Body} (hold : old.Ordered) (hnew : new.Ordered) :
    (compare old new = .identical → ∀ {V : Type u} {X : Type v} {S : Type w}
      (I : Interpreter V X S) (steps : ℕ) (σ : Stage V X S),
        I.run old steps σ = I.run new steps σ) ∧
    (old.Closed → new.Closed → (∀ steps σ, Interpreter.probe.run old steps σ =
      Interpreter.probe.run new steps σ) → compare old new = .identical) := by
  rw [compare_eq_identical_iff]
  exact ⟨fun h _ _ _ I => I.run_eq hold hnew h, fun hold' hnew' h =>
    Interpreter.alike_of_probe hold hnew hold' hnew' (h 1)⟩

/-- A loop that is left forwards; its operations are evenly spaced. -/
def sampleLoop (spacing : Offset) : Body := [
  ⟨0, .branch 0x3A, .target (2 * spacing)⟩,
  ⟨spacing, .leave, .target 0⟩,
  ⟨2 * spacing, .ret, .none⟩]

/-- The loop runs in lockstep with different spacings. -/
theorem compare_lockstep_sampleLoop : (sampleLoop 5).Ordered ∧ (sampleLoop 7).Ordered ∧
    (sampleLoop 5).Closed ∧ (sampleLoop 7).Closed ∧
    compare (sampleLoop 5) (sampleLoop 7) = .identical ∧ ∀ steps σ,
      Interpreter.probe.run (sampleLoop 5) steps σ =
        Interpreter.probe.run (sampleLoop 7) steps σ := by
  have hordered₅ : (sampleLoop 5).Ordered := (checkOrder_eq_ok_iff _).1 (by rfl)
  have hordered₇ : (sampleLoop 7).Ordered := (checkOrder_eq_ok_iff _).1 (by rfl)
  have hclosed₅ : (sampleLoop 5).Closed := by
    simp only [Closed, sampleLoop, List.forall_mem_cons]
    refine ⟨?_, ?_, ?_, by simp⟩ <;> rintro t ⟨⟩ <;> decide
  have hclosed₇ : (sampleLoop 7).Closed := by
    simp only [Closed, sampleLoop, List.forall_mem_cons]
    refine ⟨?_, ?_, ?_, by simp⟩ <;> rintro t ⟨⟩ <;> decide
  have hexit : (sampleLoop 5).destination (2 * 5) = (sampleLoop 7).destination (2 * 7) := by
    rw [(hordered₅.destination_eq_position_iff (k := 2)).2 ⟨_, rfl, rfl⟩,
      (hordered₇.destination_eq_position_iff (k := 2)).2 ⟨_, rfl, rfl⟩]
  have hback : (sampleLoop 5).destination 0 = (sampleLoop 7).destination 0 := by
    rw [(hordered₅.destination_eq_position_iff (k := 0)).2 ⟨_, rfl, rfl⟩,
      (hordered₇.destination_eq_position_iff (k := 0)).2 ⟨_, rfl, rfl⟩]
  have hlength {k : ℕ} {o : Operation} (hk : (sampleLoop 5)[k]? = some o) : k < 3 :=
    (List.getElem?_eq_some_iff.1 hk).1
  have hidentical : compare (sampleLoop 5) (sampleLoop 7) = .identical := by
    refine (compare_eq_identical_iff _ _).2 ⟨rfl, fun k o p ho hp => ?_, fun k o p ho hp => ?_⟩
    · have hk := hlength ho
      interval_cases k <;> cases ho <;> cases hp <;> rfl
    · have hk := hlength ho
      interval_cases k <;> cases ho <;> cases hp
      · exact .target hexit
      · exact .target hback
      · exact .same (by simp)
  have hrun := (compare_lockstep.{0, 0, 0} hordered₅ hordered₇).1 hidentical Interpreter.probe
  exact ⟨hordered₅, hordered₇, hclosed₅, hclosed₇,
    (compare_lockstep.{0, 0, 0} hordered₅ hordered₇).2 hclosed₅ hclosed₇ hrun, hrun⟩

end Body

end BuildDrift
