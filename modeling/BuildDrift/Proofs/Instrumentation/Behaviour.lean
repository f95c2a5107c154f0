import BuildDrift.Proofs.Execution.Simulation
import BuildDrift.Proofs.Instrumentation.Ranges

/-!
# Instrumenting preserves behaviour

An instrumented body runs like the given one. The start of the test, the end of the test and the
records leave everything but the log as it is, and an image has the effect of its operation, except
that a result that was dropped is kept in a variable of its own. Jumps and handlers go to the
groups of the operations they went to. So whenever the given body is about to execute an operation,
the instrumented one is about to execute its group, with the same stack, heap and declared
variables, and both end in the same way.

## Main definitions

* `Machine.LogsApi`: the entry points only log their arguments.
* `MethodDefinition.Scoped`: variables are declared, and targets lead somewhere.

## Main results

* `MethodDefinition.Injectable.step_matches`: the instrumented body catches up after every step.
* `Instrumentation.onMethod_follows`: the instrumented body follows the given one.
-/

namespace BuildDrift

open Instruction

universe u v w

variable {V : Type u} {H : Type v} {X : Type w} {n : ℕ}

/-- The entry points of a recording API take their arguments and log them. -/
structure Machine.LogsApi (M : Machine V H X n) (api : RecordingApi) : Prop where
  /-- The start of the test takes its name. -/
  startTest : M.arity? api.startTest = some 1
  /-- The end of the test takes nothing. -/
  endTest : M.arity? api.endTest = some 0
  /-- A record takes the object and the callee. -/
  recordCall : M.arity? api.recordCall = some 2
  /-- A record of a result takes the object, the result and the callee. -/
  recordResult : M.arity? api.recordResult = some 3

/-- Operands name declared variables, and operations or the end of the body. -/
structure MethodDefinition.Scoped (m : MethodDefinition) : Prop where
  /-- Variables are declared. -/
  slots : ∀ o ∈ m.operations, ∀ s, o.operand = .slot s → s.toNat < m.locals.length
  /-- Targets are operations or the end of the body. -/
  targets : ∀ o ∈ m.operations, ∀ t, o.operand = .target t →
    (∃ p ∈ m.operations, p.offset = t) ∨ t = m.codeSize

/-! ### Injected instructions are quiet -/

namespace Machine

variable {M : Machine V H X n} {c : InstrumentConfig} (hM : M.LogsApi c.api) {slots : ℕ}
include hM

theorem LogsApi.quiet_opening (name : String) :
    M.Quiet slots [loadString name, call c.api.startTest] := by
  intro f
  refine ⟨f.log ++ [(c.api.startTest, [M.text name])], ?_⟩
  simp [performAll, perform, loadString, call, hM.startTest, Frame.push]

theorem LogsApi.quiet_endTest : M.Quiet slots [call c.api.endTest] := by
  intro f
  refine ⟨f.log ++ [(c.api.endTest, [])], ?_⟩
  simp [performAll, perform, call, hM.endTest]

theorem LogsApi.quiet_callRecord {subject : UInt16} (hsubject : subject.toNat < slots)
    (callee : String) : M.Quiet slots (Treatment.callRecord c subject callee) := by
  intro f
  refine ⟨f.log ++ [(c.api.recordCall, [M.text callee, f.locals subject.toNat])], ?_⟩
  simp [Treatment.callRecord, performAll, perform, loadLocal, loadString, call, hM.recordCall,
    Frame.push, hsubject]

theorem LogsApi.quiet_resultRecord {subject temporary : UInt16} (hsubject : subject.toNat < slots)
    (htemporary : temporary.toNat < slots) (callee : MethodRef) (result : TypeRef) :
    M.Quiet slots (Treatment.resultRecord c subject temporary callee result) := by
  intro f
  let kept := f.locals temporary.toNat
  refine ⟨f.log ++ [(c.api.recordResult, [M.text callee.name,
    if result.isValueType then M.boxed result kept else kept, f.locals subject.toNat])], ?_⟩
  by_cases hbox : result.isValueType = true <;>
    simp [Treatment.resultRecord, performAll, perform, loadLocal, loadString, call,
      hM.recordResult, Frame.push, hsubject, htemporary, hbox, kept]

end Machine

namespace MethodDefinition

variable {m : MethodDefinition} (c : InstrumentConfig) {region : ExceptionRegion}

/-! ### Variables of records -/

theorem Scoped.subject_lt (hm : m.Scoped) {j : ℕ} (hj : j ≤ m.operations.length) {slot : UInt16}
    (h : Treatment.LatestSubject (m.treatmentAt c region) j slot) :
    slot.toNat < m.locals.length := by
  obtain ⟨k, hk, hconstruction, -⟩ := h
  obtain ⟨o, hget⟩ : ∃ o, m.operations[k]? = some o := ⟨_, List.getElem?_eq_getElem (by omega)⟩
  have hsite := site_at c region hget
  rw [hconstruction] at hsite
  cases hsite with
  | construction hj hk hnew htry hkind hslot => exact hm.slots o (List.mem_of_getElem? hget) _ hslot

section Quiet

variable {M : Machine V H X n} (hM : M.LogsApi c.api)
include hM

theorem quiet_headAt {slots j : ℕ} {o : Operation} (hj : m.operations[j]? = some o) :
    M.Quiet slots (m.headAt c region j) := by
  rw [headAt_eq c region hj]
  split_ifs
  · exact hM.quiet_endTest
  · exact Machine.quiet_nil

theorem quiet_tailAt (hm : m.Scoped) {j : ℕ} {o : Operation} (hj : m.operations[j]? = some o) :
    M.Quiet (m.instrumented c region).locals.length (m.tailAt c region j) := by
  have hlocals := length_locals_le (m := m) c region
  have hlt := (List.getElem?_eq_some_iff.1 hj).1
  have hsubject {k : ℕ} {slot : UInt16} (hk : k ≤ m.operations.length)
      (h : Treatment.LatestSubject (m.treatmentAt c region) k slot) :
      slot.toNat < (m.instrumented c region).locals.length :=
    Nat.lt_of_lt_of_le (hm.subject_lt c hk h) hlocals
  rw [tailAt_eq c region hj]
  refine Machine.Quiet.append ?_ ?_
  · have hsite := site_at c region hj
    have htemporary {s slot callee result}
        (h : m.treatmentAt c region j = .resultCall s slot callee result) :=
      (temporary_lt c region hj h).2
    generalize m.treatmentAt c region j = t at hsite htemporary
    cases hsite with
    | construction hk hget hnew htry hkind hslot =>
      exact hM.quiet_callRecord (Nat.lt_of_lt_of_le
        (hm.slots o (List.mem_of_getElem? hj) _ hslot) hlocals) _
    | resultCall hk hget hcall hcallee hresult htry hpop hlatest =>
      exact hM.quiet_resultRecord (hsubject (Nat.le_of_lt hlt) hlatest) (htemporary rfl) _ _
    | _ => exact Machine.quiet_nil
  · by_cases hnext : j + 1 < m.operations.length
    · have hsite := site_at c region (List.getElem?_eq_getElem hnext)
      generalize m.treatmentAt c region (j + 1) = t at hsite
      cases hsite with
      | plainCall hk hget hcall hcallee htry hstore hpop hlatest =>
        exact hM.quiet_callRecord (hsubject (Nat.le_of_lt hnext) hlatest) _
      | _ => exact Machine.quiet_nil
    · rw [treatmentAt_of_length_le m c region (Nat.not_lt.1 hnext)]
      exact Machine.quiet_nil

end Quiet

/-! ### Jumps and handlers -/

section Exact

variable (h : m.Injectable region)
  (hexact : ((m.instrumented c region).operations.map Operation.size).sum < UInt32.size)
include hexact

/-- Nothing stands at the end of an instrumented body that is in range. -/
theorem offset_ne_codeSize_instrumented : ∀ o ∈ (m.instrumented c region).operations,
    o.offset ≠ (m.instrumented c region).codeSize := by
  intro o ho
  obtain ⟨p, hp⟩ := List.mem_iff_getElem?.1 ho
  rw [getElem?_instrumented, Option.map_eq_some_iff] at hp
  obtain ⟨i, hi, rfl⟩ := hp
  rw [sum_size_instrumented] at hexact
  have hlt := weight_take_lt (List.getElem?_eq_some_iff.1 hi).1 (Nat.le_refl _)
  rw [List.take_length] at hlt
  rw [codeSize_instrumented]
  exact UInt32.ne_of_lt (Offset.capped_lt_capped hlt hexact)

include h

/-- A moved target lands at the group of the operation at which the target has landed. -/
theorem Injectable.landing?_relocate {t : Offset}
    (ht : (∃ p ∈ m.operations, p.offset = t) ∨ t = m.codeSize) : ∃ q, m.landing? t = some q ∧
      (m.instrumented c region).landing? (m.relocate c region t) =
        some (m.groupStart c region q) := by
  rcases ht with ⟨p, hp, rfl⟩ | rfl
  · obtain ⟨q, hq⟩ := List.mem_iff_getElem?.1 hp
    refine ⟨q, landing?_of_hasOffset h.valid.ordered ⟨p, hq, rfl⟩, ?_⟩
    rw [relocate_offset c region h.valid.ordered hq]
    exact landing?_of_hasOffset (ordered_instrumented hexact) (getElem?_groupStart c region hq)
  · refine ⟨_, landing?_codeSize h.valid.offset_ne_codeSize, ?_⟩
    rw [relocate_codeSize c region h.valid.ordered h.valid.offset_ne_codeSize,
      ← codeSize_instrumented, landing?_codeSize (offset_ne_codeSize_instrumented c hexact),
      length_instrumented, groupStart_length]

/-- Handlers begin at the groups of the operations at which they have begun. -/
theorem Injectable.landing?_handler : ∃ q, m.landing? region.handlerStart = some q ∧
    (m.instrumented c region).landing? (m.movedRegion c region).handlerStart =
      some (m.groupStart c region q) := by
  obtain ⟨a, b, a', b', hspans⟩ := h.exists_spans
  exact ⟨a', landing?_of_hasOffset h.valid.ordered hspans.handlerFirst,
    landing?_of_hasOffset (ordered_instrumented hexact)
      (hspans.moved c h.valid.ordered).handlerFirst⟩

/-- The same exceptions are handled at an operation and at its image, with the same stack. -/
theorem Injectable.handler?_image {M : Machine V H X n} {j : ℕ} {o o' : Operation}
    (hj : m.operations[j]? = some o)
    (himage : (m.instrumented c region).operations[m.imageAt c region j]? = some o') (x : X) :
    ∃ taken : Option (List V),
      M.handler? m o x = taken.map (fun stack => (stack, region.handlerStart)) ∧
      M.handler? (m.instrumented c region) o' x =
        taken.map fun stack => (stack, (m.movedRegion c region).handlerStart) := by
  have hinTry := (h.inTry_image c hexact hj himage).1
  have hregions : (m.instrumented c region).regions = [m.movedRegion c region] := rfl
  have hkind : (m.movedRegion c region).kind = region.kind := rfl
  have hcaught : (m.movedRegion c region).caught = region.caught := rfl
  simp only [Machine.handler?, h.regions, hregions, List.findSome?_cons, List.findSome?_nil, hinTry,
    hkind, hcaught]
  split_ifs
  · refine ⟨M.handle region.kind region.caught x, ?_⟩
    cases M.handle region.kind region.caught x <;> exact ⟨rfl, rfl⟩
  · exact ⟨none, rfl, rfl⟩

end Exact

/-! ### Catching up -/

section Simulation

variable {M : Machine V H X m.locals.length} (h : m.Injectable region)
  (hexact : ((m.instrumented c region).operations.map Operation.size).sum < UInt32.size)
  (hm : m.Scoped) (hM : M.LogsApi c.api)
include hm hM

/-- Behind an image, the record runs up to the next group. -/
theorem run_tailAt {j : ℕ} {o : Operation} (hj : m.operations[j]? = some o)
    {g g' : Frame V H} (hg : g.Agrees m.locals.length g') :
    State.Matches m.locals.length (m.groupStart c region)
      (.running (j + 1) g : State V H X)
      (M.run (m.instrumented c region) (m.tailAt c region j).length
        (.running (m.imageAt c region j + 1) g')) := by
  have ht := treatments_getElem c region hj
  have hcode : (m.instrumented c region).operations.instructions.drop
      (m.imageAt c region j + 1) = m.tailAt c region j ++
        (m.code c region).drop (m.groupStart c region (j + 1)) := by
    rw [instrumented, Body.instructions_packed, drop_code_imageAt c region ht]
  obtain ⟨log, hlog⟩ := quiet_tailAt c hM hm hj g'
  rw [Machine.run_straight hcode hlog, ← groupStart_succ c region ht]
  exact .running (hg.log log)

include h hexact

/-- The instrumented body catches up when an image has had the effect of its operation. -/
theorem Injectable.proceed_matches {j : ℕ} {o o' : Operation} (hj : m.operations[j]? = some o)
    (himage : (m.instrumented c region).operations[m.imageAt c region j]? = some o')
    (htarget : o'.operand = o.operand.retarget (m.relocate c region))
    {f f' : Frame V H} (hf : f.Agrees m.locals.length f') {e e' : Effect V X (Frame V H)}
    (he : Effect.Rel (Frame.Agrees m.locals.length) e e') :
    ∃ k, State.Matches m.locals.length (m.groupStart c region) (M.proceed m j o f e)
      (M.run (m.instrumented c region) k
        (M.proceed (m.instrumented c region) (m.imageAt c region j) o' f' e')) := by
  cases he with
  | next hg => exact ⟨_, run_tailAt c hm hM hj hg⟩
  | jump hg =>
    refine ⟨0, ?_⟩
    by_cases hjump : ∃ t, o.operand = .target t
    · obtain ⟨t, ht⟩ := hjump
      obtain ⟨q, hq, hq'⟩ :=
        h.landing?_relocate c hexact (hm.targets o (List.mem_of_getElem? hj) t ht)
      have hlanding : o.target?.bind m.landing? = some q := by
        rw [Operation.target?, ht]
        exact hq
      have hlanding' : o'.target?.bind (m.instrumented c region).landing? =
          some (m.groupStart c region q) := by
        rw [Operation.target?, htarget, ht]
        exact hq'
      simp only [Machine.run_zero, Machine.proceed, hlanding, hlanding']
      exact .running hg
    · have hnone : o.target? = none ∧ o'.target? = none := by
        rw [Operation.target?, Operation.target?, htarget]
        cases hoperand : o.operand with
        | target t => exact absurd ⟨t, hoperand⟩ hjump
        | _ => exact ⟨rfl, rfl⟩
      simp only [Machine.run_zero, Machine.proceed, hnone.1, hnone.2, Option.bind_none]
      exact .ended hg
  | @raise x _ _ hg =>
    refine ⟨0, ?_⟩
    obtain ⟨taken, htaken, htaken'⟩ := h.handler?_image c hexact (M := M) hj himage x
    obtain ⟨q, hq, hq'⟩ := h.landing?_handler c hexact
    simp only [Machine.run_zero, Machine.proceed, htaken, htaken']
    cases taken with
    | none => exact .ended hg
    | some stack =>
      simp only [Option.map_some, hq, hq']
      exact .running (hg.withStack stack)
  | finish hg => exact ⟨0, .ended hg⟩
  | fault => exact ⟨0, .ended hf⟩

/-- The instrumented body catches up behind an image that has the kind of its operation. -/
theorem Injectable.kept_matches {j : ℕ} {o : Operation} (hj : m.operations[j]? = some o)
    (hkept : (m.treatmentAt c region j).image (m.relocate c region) o =
      (o.kind, o.operand.retarget (m.relocate c region)))
    {f f' : Frame V H} (hf : f.Agrees m.locals.length f') :
    ∃ k, State.Matches m.locals.length (m.groupStart c region)
      (M.step m (.running j f) : State V H X)
      (M.run (m.instrumented c region) (k + 1) (.running (m.imageAt c region j) f')) := by
  obtain ⟨offset, himage⟩ := getElem?_imageAt c region hj
  rw [hkept] at himage
  simp only [Machine.run_succ, Machine.step_of_getElem? f hj, Machine.step_of_getElem? f' himage]
  exact h.proceed_matches c hexact hm hM hj himage rfl hf
    (M.perform_rel hf (length_locals_le c region) o.kind (hm.slots o (List.mem_of_getElem? hj)) _)

omit h hexact in
/-- The instrumented body catches up behind a result that is kept. -/
theorem substituted_matches {j : ℕ} {o : Operation} (hj : m.operations[j]? = some o)
    {subject slot : UInt16} {callee : MethodRef} {result : TypeRef}
    (ht : m.treatmentAt c region j = .resultCall subject slot callee result)
    {f f' : Frame V H} (hf : f.Agrees m.locals.length f') :
    ∃ k, State.Matches m.locals.length (m.groupStart c region)
      (M.step m (.running j f) : State V H X)
      (M.run (m.instrumented c region) (k + 1) (.running (m.imageAt c region j) f')) := by
  obtain ⟨offset, himage⟩ := getElem?_imageAt c region hj
  obtain ⟨hn, hslots⟩ := temporary_lt c region hj ht
  have hsite := site_at c region hj
  rw [ht] at himage hsite
  cases hsite with
  | resultCall hk hget hcall hcallee hresult htry hpop =>
    have hinstruction : o.instruction = (.pop, o.operand) := by rw [Operation.instruction, hpop]
    simp only [Machine.run_succ, Machine.step_of_getElem? f hj, Machine.step_of_getElem? f' himage,
      hinstruction]
    rcases M.perform_pop_storeLocal hf hn hslots o.operand with ⟨he, he'⟩ | ⟨g, g', he, he', hg⟩
    · refine ⟨0, ?_⟩
      rw [he, Operation.instruction, Treatment.image, storeLocal, he']
      exact .ended hf
    · refine ⟨(m.tailAt c region j).length, ?_⟩
      rw [he, Operation.instruction, Treatment.image, storeLocal, he']
      exact run_tailAt c hm hM hj hg

/-- The instrumented body catches up behind an image. -/
theorem Injectable.image_matches {j : ℕ} {o : Operation} (hj : m.operations[j]? = some o)
    {f f' : Frame V H} (hf : f.Agrees m.locals.length f') :
    ∃ k, State.Matches m.locals.length (m.groupStart c region)
      (M.step m (.running j f) : State V H X)
      (M.run (m.instrumented c region) (k + 1) (.running (m.imageAt c region j) f')) := by
  cases ht : m.treatmentAt c region j with
  | resultCall => exact substituted_matches c hm hM hj ht hf
  | _ => exact h.kept_matches c hexact hm hM hj (by rw [ht]; rfl) hf

/-- The instrumented body catches up after every step. -/
theorem Injectable.step_matches (s s' : State V H X)
    (hs : State.Matches m.locals.length (m.groupStart c region) s s') :
    ∃ k, 0 < k ∧ State.Matches m.locals.length (m.groupStart c region) (M.step m s)
      (M.run (m.instrumented c region) k s') := by
  cases hs with
  | ended hf => exact ⟨1, Nat.one_pos, .ended hf⟩
  | @running j f f' hf =>
    by_cases hj : j < m.operations.length
    · have hget : m.operations[j]? = some m.operations[j] := List.getElem?_eq_getElem hj
      have ht := treatments_getElem c region hget
      have hcode := drop_code c region ht
      rw [← Body.instructions_packed 0 (m.code c region)] at hcode
      have hquiet : M.Quiet (m.instrumented c region).locals.length (m.headAt c region j) :=
        quiet_headAt c hM hget
      obtain ⟨log, hlog⟩ := hquiet f'
      obtain ⟨k, hk⟩ := h.image_matches c hexact hm hM hget (hf.log log)
      refine ⟨(m.headAt c region j).length + (k + 1), by omega, ?_⟩
      rw [Machine.run_add, Machine.run_straight hcode hlog]
      exact hk
    · have hnone : m.operations[j]? = none := List.getElem?_eq_none (Nat.not_lt.1 hj)
      have hnone' : (m.instrumented c region).operations[m.groupStart c region j]? = none := by
        refine List.getElem?_eq_none ?_
        rw [length_instrumented, groupStart_of_length_le c region (Nat.not_lt.1 hj)]
      refine ⟨1, Nat.one_pos, ?_⟩
      rw [Machine.run_succ, Machine.run_zero, Machine.step, Machine.step, hnone, hnone']
      exact .ended hf

omit h hexact hm in
/-- The start of the test leads to the first group. -/
theorem start_matches {f f' : Frame V H} (hf : f.Agrees m.locals.length f') :
    State.Matches m.locals.length (m.groupStart c region) (.running 0 f : State V H X)
      (M.run (m.instrumented c region) 2 (.running 0 f')) := by
  have hquiet : M.Quiet (m.instrumented c region).locals.length _ :=
    hM.quiet_opening m.declaringType.name
  obtain ⟨log, hlog⟩ := hquiet f'
  have hcode : (m.instrumented c region).operations.instructions.drop 0 =
      [loadString m.declaringType.name, call c.api.startTest] ++
        (m.code c region).drop (m.groupStart c region 0) := by
    rw [List.drop_zero, instrumented, Body.instructions_packed, ← take_code_zero c region,
      List.take_append_drop]
  have hrun := Machine.run_straight hcode hlog
  rw [List.length_cons, List.length_singleton, Nat.zero_add] at hrun
  rw [hrun]
  have hmatches : State.Matches m.locals.length (m.groupStart c region)
      (.running 0 f : State V H X) (.running (m.groupStart c region 0) { f' with log }) :=
    .running (hf.log log)
  rwa [groupStart_zero] at hmatches

end Simulation

end MethodDefinition

/-- An instrumented body that is laid out exactly follows the given one: whatever instructions
mean, whenever the given body is about to execute an operation, the instrumented one is about to
execute its group with the same stack, heap and declared variables, and both end in the same
way. -/
theorem Instrumentation.onMethod_follows {i : Instrumentation} {m m' : MethodDefinition}
    {tally : Tally} {logs : List LogRecord}
    (h : i.onMethod m = .ok ⟨m', .injected tally, logs⟩)
    (hexact : (m'.operations.map Operation.size).sum < UInt32.size) (hm : m.Scoped) :
    ∃ region site start image, m.regions = [region] ∧
      m.Insertion i.config region m' tally site start image ∧
      ∀ {V : Type u} {H : Type v} {X : Type w} (M : Machine V H X m.locals.length),
        M.LogsApi i.config.api → ∀ f f' : Frame V H, f.Agrees m.locals.length f' →
          M.Follows m m' start (.running 0 f) (.running 0 f') := by
  obtain ⟨region, hinjectable, rfl, rfl⟩ := i.injectable_of_onMethod h
  refine ⟨region, _, _, _, hinjectable.regions, hinjectable.insertion i.config region, ?_⟩
  intro V H X M hM f f' hf
  exact Machine.follows_of_step (hinjectable.step_matches i.config hexact hm hM)
    (MethodDefinition.start_matches i.config hM hf)

/-! ### An example -/

/-- An interpretation in which calls and constructions give texts, and everything else does
nothing. -/
def Machine.sample (n : ℕ) : Machine String Unit Unit n where
  text s := s
  boxed _ v := v
  arity? callee := (RecordingApi.standard.entryPoints.find? fun entry => entry = callee).map
    fun entry => entry.parameters.length
  interpret kind a v :=
    match kind, a with
    | .newObj, .method callee => .next { v with stack := callee.name :: v.stack }
    | .callVirt, .method callee =>
      .next { v with
        stack := if callee.returnType.isSome then callee.name :: v.stack.tail else v.stack.tail }
    | .leave, _ => .jump { v with stack := [] }
    | _, _ => .next v
  handle _ _ _ := some ["exception"]

/-- A frame in which nothing has happened yet. -/
def Frame.blank : Frame String Unit := ⟨[], (), fun _ => "", []⟩

theorem MethodDefinition.scoped_sample : (sample 6).Scoped where
  slots := by simp [sample]
  targets := by simp [sample]

/-- The instrumented example follows the given one. -/
theorem Instrumentation.onMethod_sample_follows : ∃ m' tally logs,
    ({} : Instrumentation).onMethod (.sample 6) = .ok ⟨m', .injected tally, logs⟩ ∧
      (m'.operations.map Operation.size).sum < UInt32.size ∧
      (MethodDefinition.sample 6).Scoped ∧
      (Machine.sample 1).LogsApi RecordingApi.standard ∧ Frame.blank.Agrees 1 .blank ∧
      ∃ start, (Machine.sample 1).Follows (.sample 6) m' start
        (.running 0 .blank) (.running 0 .blank) := by
  obtain ⟨logs, h⟩ :=
    ({} : Instrumentation).onMethod_eq_injected MethodDefinition.injectable_sample
  have hM : (Machine.sample 1).LogsApi RecordingApi.standard := ⟨rfl, rfl, rfl, rfl⟩
  have hblank : Frame.blank.Agrees 1 .blank := ⟨rfl, rfl, fun _ _ => rfl⟩
  obtain ⟨region, site, start, image, -, -, hfollows⟩ :=
    onMethod_follows h MethodDefinition.exact_sample MethodDefinition.scoped_sample
  exact ⟨_, _, logs, h, MethodDefinition.exact_sample, MethodDefinition.scoped_sample, hM, hblank,
    start, hfollows (Machine.sample 1) hM _ _ hblank⟩

end BuildDrift
