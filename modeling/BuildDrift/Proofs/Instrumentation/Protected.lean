import BuildDrift.Proofs.Instrumentation.Outcome

/-!
# Code that is protected as a whole

When all operations of a body are protected, what they become depends on their instructions only,
and the pass can be followed along the code: every instruction is kept, or recorded with the one
behind it.

## Main definitions

* `Treatment.output`: everything that a treatment emits.
* `Instruction.Inert`: an instruction that gives no reason to record anything.
* `Progress.Emits`: what the pass makes of protected code.

## Main results

* `MethodDefinition.code_eq`: the instrumented body, treatment by treatment.
* `Progress.Emits.keep`, `inert`, `construction`, `plainCall`, `resultCall`, `ending`: protected
  code, instruction by instruction.
* `MethodDefinition.code_of_emits`: a body that is protected as a whole.
-/

namespace BuildDrift

open Instruction

/-! ### The instrumented body, treatment by treatment -/

/-- Everything that a treatment emits, in order. -/
def Treatment.output (c : InstrumentConfig) (f : Offset → Offset) (o : Operation)
    (t : Treatment) : List Instruction :=
  t.lead c ++ t.head c o ++ t.image f o :: t.trail c

namespace MethodDefinition

private theorem settled_tilesOf (c : InstrumentConfig) (r : Relocation) (target : Goal → Offset)
    (treated : List (Operation × Treatment)) :
    leadOf c treated ++ ((tilesOf c r treated).flatMap Tile.emitted).map (Emitted.settled target) =
      treated.flatMap fun (o, t) => t.output c (fun s => ((r.goal? s).map target).getD s) o := by
  induction treated with
  | nil => rfl
  | cons entry treated ih =>
    obtain ⟨o, t⟩ := entry
    have hlead : leadOf c ((o, t) :: treated) = t.lead c := rfl
    rw [hlead, tilesOf, List.flatMap_cons, List.flatMap_cons, ← ih]
    simp only [List.map_append, List.map_cons, Emitted.map_settled_plain, t.settled_emitted,
      Treatment.output, List.append_assoc, List.cons_append]

/-- The instrumented body starts the test; then come the treatments. -/
theorem code_eq (m : MethodDefinition) (c : InstrumentConfig) (region : ExceptionRegion) :
    m.code c region = loadString m.declaringType.name :: call c.api.startTest ::
      (m.treatments c region).1.flatMap fun (o, t) => t.output c (m.relocate c region) o := by
  have htiles := settled_tilesOf c m.relocation (m.landing c region) (m.treatments c region).1
  rw [m.leadOf_treatments, List.nil_append] at htiles
  rw [code, Tile.code, List.map_append, tiles, htiles]
  rfl

end MethodDefinition

/-! ### Protected code -/

/-- An operation with this instruction, at the beginning. -/
def Instruction.operation (i : Instruction) : Operation := ⟨0, i.1, i.2⟩

/-- An instruction that gives no reason to record anything. -/
structure Instruction.Inert (i : Instruction) : Prop where
  /-- It does not store a value. -/
  store : i.1 ≠ .storeLocal
  /-- It does not return. -/
  ret : i.1 ≠ .ret
  /-- It does not call a method on an object. -/
  call : i.1 ≠ .callVirt
  /-- It does not construct an object. -/
  construction : i.1 ≠ .newObj
  /-- It has no target. -/
  target (f : Offset → Offset) : i.2.retarget f = i.2

namespace Progress

/-- What the pass makes of protected code behind an instruction, and what it finds there. -/
def Emits (c : InstrumentConfig) (f : Offset → Offset) (p : Progress)
    (previous : Option Instruction) (code out : List Instruction) (q : Progress) : Prop :=
  let treated := p.treatAll (fun _ => true) (previous.map operation) (code.map operation)
  treated.1.flatMap (fun (o, t) => t.output c f o) = out ∧ treated.2 = q

variable {c : InstrumentConfig} {f : Offset → Offset} {p q r : Progress}
  {i : Instruction} {code out : List Instruction}

theorem Emits.cons (previous : Option Instruction) {t : Treatment}
    (ht : p.treat true (previous.map operation) i.operation = (t, q))
    (h : Emits c f q (some i) code out r) :
    Emits c f p previous (i :: code) (t.output c f i.operation ++ out) r := by
  obtain ⟨rfl, rfl⟩ := h
  simp only [Emits, List.map_cons, treatAll, ht, List.flatMap_cons]
  exact ⟨rfl, rfl⟩

/-- Only behind a call and behind a construction something can be recorded. -/
theorem Emits.behind (hcall : i.1 ≠ .callVirt) (hnew : i.1 ≠ .newObj)
    (h : Emits c f p none code out q) : Emits c f p (some i) code out q := by
  cases code with
  | nil => exact h
  | cons j code =>
    have hkeep : p.treat true (some i.operation) j.operation = (.keep, p) := by
      simp [treat, treatStore, operation, hcall, hnew]
    have hnone : ∃ t, p.treat true none j.operation = (t, p) ∧
        t.output c f j.operation = Treatment.keep.output c f j.operation := by
      by_cases hstore : j.operation.isStore
      · exact ⟨.unrecorded .noPredecessor, by simp [treat, treatStore, hstore], rfl⟩
      · exact ⟨.keep, by simp [treat, hstore], rfl⟩
    obtain ⟨t, ht, houtput⟩ := hnone
    obtain ⟨rfl, rfl⟩ := h
    simp only [Emits, List.map_cons, Option.map_none, Option.map_some, treatAll, ht, hkeep,
      List.flatMap_cons, houtput, and_self]

private theorem output_keep (hret : i.1 ≠ .ret) (htarget : i.2.retarget f = i.2) :
    Treatment.keep.output c f i.operation = [i] := by
  simp [Treatment.output, Treatment.lead, Treatment.head, Treatment.image, Treatment.trail,
    Operation.isReturn, operation, hret, htarget]

/-- An instruction is kept. -/
theorem Emits.keep (hstore : i.1 ≠ .storeLocal) (hret : i.1 ≠ .ret)
    (htarget : i.2.retarget f = i.2) (h : Emits c f p (some i) code out q) :
    Emits c f p none (i :: code) (i :: out) q := by
  have ht : p.treat true none i.operation = (.keep, p) := by
    simp [treat, Operation.isStore, operation, hstore]
  have hcons := Emits.cons none ht h
  rwa [output_keep hret htarget] at hcons

/-- Inert instructions are kept. -/
theorem Emits.inert {front : List Instruction} (hfront : ∀ i ∈ front, i.Inert)
    (h : Emits c f p none code out q) : Emits c f p none (front ++ code) (front ++ out) q := by
  induction front with
  | nil => exact h
  | cons i front ih =>
    obtain ⟨hi, hrest⟩ := List.forall_mem_cons.1 hfront
    exact .keep hi.store hi.ret (hi.target f) (.behind hi.call hi.construction (ih hrest))

/-- The end of the test is recorded in front of a return. -/
theorem Emits.ending :
    Emits c f p none [(.ret, .none)] [call c.api.endTest, (.ret, .none)] p :=
  ⟨rfl, rfl⟩

/-- A construction is recorded behind the store of the object. -/
theorem Emits.construction {constructor : MethodRef} {slot : UInt16}
    (h : Emits c f { p with subject := some slot } none code out q) :
    Emits c f p (some (.newObj, .method constructor)) (storeLocal slot :: code)
      (storeLocal slot :: Treatment.callRecord c slot c.constructorSignature ++ out) q :=
  Emits.cons (some _) (t := .construction slot) rfl (h.behind OpKind.noConfusion OpKind.noConfusion)

section Call

variable {callee : MethodRef} {subject : UInt16} (hsubject : p.subject = some subject)
include hsubject

/-- A call whose result is not dropped is recorded without it. -/
theorem Emits.plainCall (hfirst : code.head? = some i) (hstore : i.1 ≠ .storeLocal)
    (hpop : i.1 ≠ .pop) (h : Emits c f p none code out q) :
    Emits c f p (some (.callVirt, .method callee)) code
      (Treatment.callRecord c subject callee.name ++ out) q := by
  obtain ⟨code, rfl⟩ := List.head?_eq_some_iff.1 hfirst
  have hkeep : p.treat true none i.operation = (.keep, p) := by
    simp [treat, Operation.isStore, operation, hstore]
  have hcall : p.treat true (some (operation (.callVirt, .method callee))) i.operation =
      (.plainCall subject callee, p) := by
    simp [treat, treatAfterCall, Operation.isStore, operation, hstore, hpop, Operation.method?,
      hsubject]
  obtain ⟨rfl, rfl⟩ := h
  simp only [Emits, List.map_cons, Option.map_none, Option.map_some, treatAll, hkeep, hcall,
    List.flatMap_cons, Treatment.output, Treatment.lead, List.nil_append, List.append_assoc,
    and_true]
  rfl

/-- A result that is dropped is kept in a temporary and recorded. -/
theorem Emits.resultCall {type : TypeRef} (hresult : callee.returnType = some type)
    {slot : UInt16} {temporaries : Temporaries}
    (hadd : p.temporaries.add? type = some (slot, temporaries))
    (h : Emits c f { p with temporaries } none code out q) :
    Emits c f p (some (.callVirt, .method callee)) ((.pop, .none) :: code)
      (storeLocal slot :: Treatment.resultRecord c subject slot callee type ++ out) q := by
  have ht : p.treat true (some (operation (.callVirt, .method callee)))
      (operation (.pop, .none)) =
        (.resultCall subject slot callee type, { p with temporaries }) := by
    simp [treat, treatAfterCall, Operation.isStore, operation, Operation.method?, hsubject, hresult,
      hadd]
  exact Emits.cons (some _) ht (h.behind OpKind.noConfusion OpKind.noConfusion)

end Call

end Progress

/-! ### Bodies that are protected as a whole -/

/-- Whether operations are protected does not matter beyond that, nor does where they stand. -/
theorem Progress.treatAll_of_forall (inTry : Operation → Bool) {body : Body}
    (h : ∀ o ∈ body, inTry o = true) (p : Progress) (previous : Option Operation) :
    let treated := p.treatAll inTry previous body
    p.treatAll (fun _ => true) (previous.map fun o => o.instruction.operation)
        (body.instructions.map operation) =
      (treated.1.map fun (o, t) => (o.instruction.operation, t), treated.2) := by
  induction body generalizing p previous with
  | nil => rfl
  | cons o body ih =>
    obtain ⟨ho, hbody⟩ := List.forall_mem_cons.1 h
    have htreat : p.treat true (previous.map fun o => o.instruction.operation)
        o.instruction.operation = p.treat (inTry o) previous o := by
      rw [ho]
      cases previous <;> rfl
    have ih := ih hbody (p.treat (inTry o) previous o).2 (some o)
    simp only [Body.instructions, List.map_cons, treatAll, htreat, Option.map_some] at ih ⊢
    rw [ih]

namespace MethodDefinition

variable {m : MethodDefinition} {c : InstrumentConfig} {region : ExceptionRegion}

/-- What a body that is protected as a whole becomes. -/
theorem code_of_emits (h : ∀ o ∈ m.operations, region.inTry o.offset = true)
    {out : List Instruction} {q : Progress}
    (hout : Progress.Emits c (m.relocate c region)
      { temporaries := { stem := c.temporaryPrefix, locals := m.locals } } none
      m.operations.instructions out q) :
    m.code c region = loadString m.declaringType.name :: call c.api.startTest :: out ∧
      (m.instrumented c region).locals = q.temporaries.locals := by
  have htreated := Progress.treatAll_of_forall (fun o => region.inTry o.offset) h
    { temporaries := { stem := c.temporaryPrefix, locals := m.locals } } none
  rw [Progress.Emits, Option.map_none] at hout
  rw [Option.map_none] at htreated
  simp only [htreated, List.flatMap_map] at hout
  obtain ⟨rfl, rfl⟩ := hout
  refine ⟨?_, rfl⟩
  rw [code_eq]
  have houtput (o : Operation) (t : Treatment) :
      t.output c (m.relocate c region) o.instruction.operation =
        t.output c (m.relocate c region) o := by
    cases t <;> rfl
  simp only [houtput]
  rfl

end MethodDefinition

end BuildDrift
