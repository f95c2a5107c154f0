import BuildDrift.Proofs.Execution.StackDepth
import BuildDrift.Proofs.Instrumentation.Bracketing

/-!
# The declared stack depth of instrumented bodies

Records are made on top of whatever is on the evaluation stack, so an instrumented body can need
more of it than the given one. Injected instructions leave the depth as they find it. Hence depths
of the given body extend to the instrumented one, group by group, and along a record the depth rises
by two or three. An instrumented body declares the depth of the given body or the least one of its
settings, whichever is greater; this suffices if and only if there is room at every recorded site.

## Main definitions

* `RecordingApi.Balanced`: what entry points take from the stack.
* `Treatment.headroom`: how far the depth rises at a site.
* `MethodDefinition.groupCode`: the instructions of a group.
* `MethodDefinition.depthsOf`: the depths of an instrumented body.

## Main results

* `MethodDefinition.line?_groupCode`, `MethodDefinition.stays_groupCode_iff`: along a group.
* `MethodDefinition.stays_groupCode_iff_headroom`: bounds along all groups, by sites.
* `MethodDefinition.within_instrumented_iff`: bounds of depths that fit an instrumented body.
* `MethodDefinition.Injectable.fits_depthsOf`: there are depths that fit an instrumented body.
* `Instrumentation.onMethod_headroom`: when the declared depth suffices.
* `Instrumentation.onMethod_cramped`: a body for which it does not.
-/

namespace BuildDrift

open Instruction

/-- The entry points take their arguments from the stack and put nothing on it. -/
structure RecordingApi.Balanced (api : RecordingApi) : Prop where
  startTest : api.startTest.stackPops = 1 ∧ api.startTest.isVoid = true
  endTest : api.endTest.stackPops = 0 ∧ api.endTest.isVoid = true
  recordCall : api.recordCall.stackPops = 2 ∧ api.recordCall.isVoid = true
  recordResult : api.recordResult.stackPops = 3 ∧ api.recordResult.isVoid = true

theorem RecordingApi.balanced_ofType (type : TypeRef) : (ofType type).Balanced :=
  ⟨⟨rfl, rfl⟩, ⟨rfl, rfl⟩, ⟨rfl, rfl⟩, ⟨rfl, rfl⟩⟩

/-- How far the depth rises behind an operation, from the depth in front of it, while what the
treatment asks for is recorded. -/
def Treatment.headroom : Treatment → ℕ
  | construction _ => 1
  | plainCall .. | resultCall .. => 2
  | _ => 0

/-- From injected instructions, control goes on. -/
theorem Instruction.Injected.continues {api : RecordingApi} {i : Instruction}
    (h : Injected api i) (M : StackModel) : M.continues i.1 = true := by
  cases h <;> rfl

theorem Treatment.headroom_le (t : Treatment) : t.headroom ≤ 2 := by
  cases t <;> simp [headroom]

/-! ### Along records -/

namespace Treatment

variable {M : StackModel} {c : InstrumentConfig} (hc : c.api.Balanced) {d b : ℕ}
include hc

theorem line?_callRecord (subject : UInt16) (callee : String) :
    M.line? (callRecord c subject callee) d = some d := by
  simp [callRecord, StackModel.line?, StackModel.after?, StackModel.exchange, loadLocal,
    loadString, call, hc.recordCall]

theorem stays_callRecord_iff (subject : UInt16) (callee : String) :
    M.Stays b (callRecord c subject callee) d ↔ d + 2 ≤ b := by
  simp [callRecord, StackModel.Stays, StackModel.after?, StackModel.exchange, loadLocal,
    loadString, call, hc.recordCall]
  omega

theorem line?_resultRecord (subject temporary : UInt16) (callee : MethodRef) (result : TypeRef) :
    M.line? (resultRecord c subject temporary callee result) d = some d := by
  cases hvalue : result.isValueType <;>
  simp [resultRecord, hvalue, StackModel.line?, StackModel.after?, StackModel.exchange, loadLocal,
    loadString, call, hc.recordResult]

theorem stays_resultRecord_iff (subject temporary : UInt16) (callee : MethodRef)
    (result : TypeRef) :
    M.Stays b (resultRecord c subject temporary callee result) d ↔ d + 3 ≤ b := by
  cases hvalue : result.isValueType <;>
  · simp [resultRecord, hvalue, StackModel.Stays, StackModel.after?, StackModel.exchange,
      loadLocal, loadString, call, hc.recordResult]
    omega

theorem line?_lead (t : Treatment) : M.line? (t.lead c) d = some d := by
  cases t with
  | plainCall subject callee => exact line?_callRecord hc subject callee.name
  | _ => rfl

theorem line?_trail (t : Treatment) : M.line? (t.trail c) d = some d := by
  cases t with
  | construction subject => exact line?_callRecord hc subject _
  | resultCall subject temporary callee result =>
    exact line?_resultRecord hc subject temporary callee result
  | _ => rfl

end Treatment

namespace MethodDefinition

variable {m : MethodDefinition} (c : InstrumentConfig) (region : ExceptionRegion) {M : StackModel}
  {depth depth' : ℕ → ℕ} {j : ℕ} {o : Operation} {d b : ℕ}

/-! ### Along groups -/

/-- The instructions of the group of the operation at position `j`. -/
def groupCode (m : MethodDefinition) (c : InstrumentConfig) (region : ExceptionRegion) (j : ℕ) :
    List Instruction :=
  (m.instrumented c region).operations.between (m.groupStart c region j)
    (m.groupStart c region (j + 1))

section Group

variable (hj : m.operations[j]? = some o)
include hj

theorem groupCode_eq : m.groupCode c region j = m.headAt c region j ++
    (m.treatmentAt c region j).image (m.relocate c region) o :: m.tailAt c region j := by
  have ht := treatments_getElem c region hj
  have hlength : m.groupStart c region (j + 1) - m.groupStart c region j =
      (m.headAt c region j ++ (m.treatmentAt c region j).image (m.relocate c region) o ::
        m.tailAt c region j).length := by
    rw [groupStart_succ c region ht, imageAt, List.length_append, List.length_cons]
    omega
  rw [groupCode, between_instrumented, drop_code c region ht, hlength, ← List.cons_append,
    ← List.append_assoc]
  exact List.take_left

/-- An image changes the depth as the operation does. -/
theorem after?_image : M.after? ((m.treatmentAt c region j).image (m.relocate c region) o) d =
    M.after? o.instruction d := by
  have hsite := site_at c region hj
  generalize m.treatmentAt c region j = t at hsite ⊢
  cases hsite with
  | resultCall _ _ _ _ _ _ hpop =>
    rw [Treatment.image, Operation.instruction, hpop]
    rfl
  | _ => exact StackModel.after?_retarget o.kind o.operand _

/-- Whatever is followed by a record within its group is a store, a pop or a call. -/
theorem kind_of_tailAt_ne_nil (h : m.tailAt c region j ≠ []) :
    o.kind = .storeLocal ∨ o.kind = .pop ∨ o.kind = .callVirt := by
  by_contra hkind
  have hlead := lead_of_ne_call c region hj fun hcall => hkind (.inr (.inr hcall))
  have hsite := site_at c region hj
  rw [tailAt_eq c region hj, hlead, List.append_nil] at h
  generalize m.treatmentAt c region j = t at hsite h
  cases hsite with
  | construction _ _ _ _ hstore => exact hkind (.inl hstore)
  | resultCall _ _ _ _ _ _ hpop => exact hkind (.inr (.inl hpop))
  | _ => exact h rfl

variable (hc : c.api.Balanced)
include hc

theorem line?_headAt : M.line? (m.headAt c region j) d = some d := by
  rw [headAt_eq c region hj]
  split_ifs
  · simp [call, StackModel.after?, StackModel.exchange, hc.endTest]
  · rfl

theorem stays_headAt_iff : M.Stays b (m.headAt c region j) d ↔ d ≤ b := by
  rw [headAt_eq c region hj]
  split_ifs
  · simp [call, StackModel.Stays, StackModel.after?, StackModel.exchange, hc.endTest]
  · rfl

theorem line?_tailAt : M.line? (m.tailAt c region j) d = some d := by
  rw [tailAt_eq c region hj, StackModel.line?_append, Treatment.line?_trail hc, Option.bind_some,
    Treatment.line?_lead hc]

theorem stays_tailAt_iff : M.Stays b (m.tailAt c region j) d ↔
    M.Stays b ((m.treatmentAt c region j).trail c) d ∧
      M.Stays b ((m.treatmentAt c region (j + 1)).lead c) d := by
  rw [tailAt_eq c region hj, StackModel.stays_append, Treatment.line?_trail hc]
  simp

/-- The depth behind the group of an operation is the depth behind the operation. -/
theorem line?_groupCode : M.line? (m.groupCode c region j) d = M.after? o.instruction d := by
  rw [groupCode_eq c region hj, StackModel.line?_append, line?_headAt c region hj hc,
    Option.bind_some, StackModel.line?, after?_image c region hj]
  cases M.after? o.instruction d with
  | none => rfl
  | some e => exact line?_tailAt c region hj hc

theorem stays_groupCode_iff {e : ℕ} (he : M.after? o.instruction d = some e) :
    M.Stays b (m.groupCode c region j) d ↔
      d ≤ b ∧ M.Stays b ((m.treatmentAt c region j).trail c) e ∧
        M.Stays b ((m.treatmentAt c region (j + 1)).lead c) e := by
  rw [groupCode_eq c region hj, StackModel.stays_append, stays_headAt_iff c region hj hc,
    line?_headAt c region hj hc]
  simp [StackModel.Stays, after?_image c region hj, he, stays_tailAt_iff c region hj hc]

end Group

/-! ### Headroom -/

variable {a : ℕ}

section Headroom

variable (hj : m.operations[j]? = some o) (hc : c.api.Balanced) {e : ℕ}
include hj hc

/-- Behind a store or a pop, there is room for what trails it. -/
theorem stays_trail_iff (he : M.after? o.instruction d = some e) (hbefore : d ≤ b)
    (hbehind : e ≤ b) : M.Stays b ((m.treatmentAt c region j).trail c) e ↔
      ((m.treatmentAt c region j).isPlainCall = false →
        d + (m.treatmentAt c region j).headroom ≤ b) := by
  have hsite := site_at c region hj
  generalize m.treatmentAt c region j = t at hsite ⊢
  cases hsite with
  | construction _ _ _ _ hstore =>
    have htaken := StackModel.add_one_of_after? (.inl hstore) he
    rw [Treatment.trail, Treatment.stays_callRecord_iff hc, Treatment.headroom]
    refine ⟨fun hroom _ => by omega, fun h => ?_⟩
    have hroom := h rfl
    omega
  | resultCall _ _ _ _ _ _ hpop =>
    have htaken := StackModel.add_one_of_after? (.inr hpop) he
    rw [Treatment.trail, Treatment.stays_resultRecord_iff hc, Treatment.headroom]
    refine ⟨fun hroom _ => by omega, fun h => ?_⟩
    have hroom := h rfl
    omega
  | plainCall => exact iff_of_true hbehind fun h => absurd h (by simp [Treatment.isPlainCall])
  | keep | unrecorded => exact iff_of_true hbehind fun _ => hbefore

/-- Behind a call, there is room for its record without the result. -/
theorem stays_lead_iff (hfits : M.Fits m depth)
    (he : M.after? o.instruction (depth j) = some e) (hbehind : e ≤ b) :
    M.Stays b ((m.treatmentAt c region (j + 1)).lead c) e ↔
      ((m.treatmentAt c region (j + 1)).isPlainCall = true →
        depth (j + 1) + (m.treatmentAt c region (j + 1)).headroom ≤ b) := by
  cases hp : m.operations[j + 1]? with
  | none =>
    rw [treatmentAt_of_length_le m c region (List.getElem?_eq_none_iff.1 hp)]
    exact iff_of_true hbehind fun h => absurd h (by simp [Treatment.isPlainCall])
  | some p =>
    have hsite := site_at c region hp
    generalize m.treatmentAt c region (j + 1) = t at hsite ⊢
    cases hsite with
    | plainCall hjk hk hcall =>
      obtain rfl := Nat.succ.inj hjk
      obtain rfl := Option.some.inj (hj.symm.trans hk)
      obtain ⟨e', he', hnext, -⟩ := hfits.edges j o hj
      obtain rfl := Option.some.inj (he.symm.trans he')
      have hdepth : depth (j + 1) = e :=
        hnext (by rw [hcall]; rfl) (List.getElem?_eq_some_iff.1 hp).1
      rw [Treatment.lead, Treatment.stays_callRecord_iff hc, hdepth]
      exact ⟨fun h _ => h, fun h => h rfl⟩
    | _ => exact iff_of_true hbehind fun h => absurd h (by simp [Treatment.isPlainCall])

end Headroom

/-- Along the groups of the operations the depth is bounded if there is room for the records. -/
theorem stays_groupCode_iff_headroom (hc : c.api.Balanced) (hfits : M.Fits m depth)
    (hwithin : M.Within m a depth) (hab : a ≤ b) :
    (∀ j < m.operations.length, M.Stays b (m.groupCode c region j) (depth j)) ↔
      ∀ j < m.operations.length, depth j + (m.treatmentAt c region j).headroom ≤ b := by
  have hgroup {j : ℕ} (hlt : j < m.operations.length) :
      M.Stays b (m.groupCode c region j) (depth j) ↔
        ((m.treatmentAt c region j).isPlainCall = false →
          depth j + (m.treatmentAt c region j).headroom ≤ b) ∧
        ((m.treatmentAt c region (j + 1)).isPlainCall = true →
          depth (j + 1) + (m.treatmentAt c region (j + 1)).headroom ≤ b) := by
    have hj : m.operations[j]? = some m.operations[j] := List.getElem?_eq_getElem hlt
    obtain ⟨e, he, -⟩ := hfits.edges j _ hj
    have hbefore : depth j ≤ b := (hwithin j _ hj).1.trans hab
    have hbehind : e ≤ b := ((hwithin j _ hj).2 e he).trans hab
    rw [stays_groupCode_iff c region hj hc he, stays_trail_iff c region hj hc he hbefore hbehind,
      stays_lead_iff c region hj hc hfits he hbehind]
    exact and_iff_right hbefore
  constructor
  · intro h j hlt
    cases hplain : (m.treatmentAt c region j).isPlainCall with
    | false => exact ((hgroup hlt).1 (h j hlt)).1 hplain
    | true =>
      -- The record of a call without its result is part of the group in front.
      have hsite := site_at c region (List.getElem?_eq_getElem hlt)
      generalize ht : m.treatmentAt c region j = t at hsite hplain
      cases hsite with
      | @plainCall k _ _ _ hjk =>
        subst hjk
        rw [← ht] at hplain ⊢
        exact ((hgroup (Nat.lt_of_succ_lt hlt)).1 (h k (Nat.lt_of_succ_lt hlt))).2 hplain
      | _ => exact absurd hplain (by simp [Treatment.isPlainCall])
  · intro h j hlt
    refine (hgroup hlt).2 ⟨fun _ => h j hlt, fun hplain => ?_⟩
    rcases Nat.lt_or_ge (j + 1) m.operations.length with hnext | hlast
    · exact h (j + 1) hnext
    · rw [treatmentAt_of_length_le m c region hlast] at hplain
      exact absurd hplain (by simp [Treatment.isPlainCall])

/-! ### Within groups -/

/-- The first two instructions of an instrumented body. -/
theorem code_prologue : (m.code c region)[0]? = some (loadString m.declaringType.name) ∧
    (m.code c region)[1]? = some (call c.api.startTest) := by
  have htake := take_code_zero (m := m) c region
  rw [groupStart_zero] at htake
  constructor
  · rw [← List.getElem?_take_of_lt (Nat.zero_lt_two), htake]
    rfl
  · rw [← List.getElem?_take_of_lt (Nat.one_lt_two), htake]
    rfl

theorem getElem?_groupCode {k : ℕ}
    (hk : m.groupStart c region j + k < m.groupStart c region (j + 1)) :
    (m.groupCode c region j)[k]? = (m.code c region)[m.groupStart c region j + k]? := by
  rw [groupCode, between_instrumented, List.getElem?_take_of_lt (by omega), List.getElem?_drop]

/-- Every operation of the instrumented body is part of the start of the test or of a group. -/
theorem exists_group_of_getElem? {p : ℕ} {o' : Operation}
    (hp : (m.instrumented c region).operations[p]? = some o') :
    p < 2 ∨ ∃ j < m.operations.length,
      m.groupStart c region j ≤ p ∧ p < m.groupStart c region (j + 1) := by
  refine exists_group c region (Nat.le_refl _) ?_
  rw [groupStart_length]
  exact (List.getElem?_eq_some_iff.1 (code_of_instrumented c region hp)).1

/-- The operation of an instruction of the instrumented body. -/
theorem exists_operation {p : ℕ} {i : Instruction} (hp : (m.code c region)[p]? = some i) :
    ∃ o', (m.instrumented c region).operations[p]? = some o' ∧ o'.instruction = i := by
  rw [getElem?_instrumented, hp]
  exact ⟨_, rfl, rfl⟩

section Position

variable (hj : m.operations[j]? = some o) {p : ℕ} {o' : Operation}
  (hp : (m.instrumented c region).operations[p]? = some o')
  (hstart : m.groupStart c region j ≤ p) (hstop : p < m.groupStart c region (j + 1))
include hj hp hstart hstop

/-- In a group, everything but the image is injected. -/
theorem injected_of_ne_imageAt (hne : p ≠ m.imageAt c region j) :
    Injected c.api o'.instruction := by
  refine injected_of_forall_ne c region (code_of_instrumented c region hp) fun k hk hpk => hne ?_
  rw [hpk] at hstart hstop ⊢
  rw [eq_of_imageAt_mem c region (List.getElem?_eq_some_iff.1 hj).1 hk hstart hstop]

/-- From what is followed by something in its group, control goes on. -/
theorem continues_of_lt (hlt : p + 1 < m.groupStart c region (j + 1)) :
    M.continues o'.kind = true := by
  by_cases hne : p = m.imageAt c region j
  · have htail : m.tailAt c region j ≠ [] := by
      intro h
      rw [groupStart_succ c region (treatments_getElem c region hj), h, List.length_nil] at hlt
      omega
    have hkind := kind_of_tailAt_ne_nil c region hj htail
    obtain ⟨offset, himage⟩ := getElem?_imageAt c region hj
    rw [← hne, hp, Option.some.injEq] at himage
    rw [himage]
    cases m.treatmentAt c region j with
    | resultCall => rfl
    | _ =>
      simp only [Treatment.image]
      rcases hkind with h | h | h <;> rw [h] <;> rfl
  · exact (injected_of_ne_imageAt c region hj hp hstart hstop hne).continues M

omit hstart hstop in
/-- If control goes on from the last operation of a group, then so it does from the operation. -/
theorem continues_of_last (hlast : p + 1 = m.groupStart c region (j + 1))
    (h : M.continues o'.kind = true) : M.continues o.kind = true := by
  by_cases htail : m.tailAt c region j = []
  · have hne : p = m.imageAt c region j := by
      rw [groupStart_succ c region (treatments_getElem c region hj), htail, List.length_nil]
        at hlast
      omega
    obtain ⟨offset, himage⟩ := getElem?_imageAt c region hj
    rw [← hne, hp, Option.some.injEq] at himage
    rw [himage] at h
    have hsite := site_at c region hj
    generalize m.treatmentAt c region j = t at hsite h
    cases hsite with
    | resultCall _ _ _ _ _ _ hpop =>
      rw [hpop]
      rfl
    | _ => exact h
  · rcases kind_of_tailAt_ne_nil c region hj htail with h | h | h <;> rw [h] <;> rfl

end Position

/-! ### Depths of the instrumented body -/

theorem after?_startTest (hc : c.api.Balanced) : M.after? (call c.api.startTest) 1 = some 0 := by
  simp [call, StackModel.after?, StackModel.exchange, hc.startTest]

section Fits

variable (hfits : M.Fits (m.instrumented c region) depth')
  (hagree : ∀ j < m.operations.length, depth' (m.groupStart c region j) = depth j)
include hfits hagree

/-- Depths that fit an instrumented body follow its groups. -/
theorem line?_take_groupCode (hj : m.operations[j]? = some o) {k : ℕ}
    (hk : m.groupStart c region j + k < m.groupStart c region (j + 1)) :
    M.line? ((m.groupCode c region j).take k) (depth j) =
      some (depth' (m.groupStart c region j + k)) := by
  have hlt : j < m.operations.length := (List.getElem?_eq_some_iff.1 hj).1
  have hle : m.groupStart c region (j + 1) ≤ (m.instrumented c region).operations.length := by
    rw [length_instrumented, ← groupStart_length]
    exact groupStart_le c region hlt (Nat.le_refl _)
  rw [groupCode, Body.between, List.take_take, Nat.min_eq_left (by omega), ← hagree j hlt]
  exact hfits.line?_eq (by omega) fun q o' hq hqk ho' =>
    continues_of_lt c region hj ho' hq (by omega) (by omega)

omit hagree in
/-- The name of the test is on the stack when the test is started. -/
theorem depth_one : depth' 1 = 1 := by
  obtain ⟨hfirst, hsecond⟩ := code_prologue (m := m) c region
  obtain ⟨o', ho', hi⟩ := exists_operation c region hfirst
  obtain ⟨o'', ho'', -⟩ := exists_operation c region hsecond
  obtain ⟨d, hd, hnext, -⟩ := hfits.edges 0 o' ho'
  rw [hi, hfits.entry] at hd
  cases hd
  have hinjected : Injected c.api o'.instruction := hi ▸ .loadString _
  exact hnext (hinjected.continues M) (List.getElem?_eq_some_iff.1 ho'').1

/-- Depths of an instrumented body are bounded if they are bounded along its groups. -/
theorem within_instrumented_iff (hc : c.api.Balanced) :
    M.Within (m.instrumented c region) b depth' ↔ 1 ≤ b ∧
      ∀ j < m.operations.length, M.Stays b (m.groupCode c region j) (depth j) := by
  obtain ⟨hfirst, hsecond⟩ := code_prologue (m := m) c region
  constructor
  · intro h
    constructor
    · obtain ⟨o', ho', hi⟩ := exists_operation c region hfirst
      refine (h 0 o' ho').2 1 ?_
      rw [hi, hfits.entry]
      rfl
    · intro j hlt
      have hj : m.operations[j]? = some m.operations[j] := List.getElem?_eq_getElem hlt
      obtain ⟨o', ho', -⟩ := getElem?_groupStart c region hj
      refine StackModel.stays_iff.2 ⟨hagree j hlt ▸ (h _ _ ho').1, fun k i e hi he => ?_⟩
      have hk : m.groupStart c region j + k < m.groupStart c region (j + 1) := by
        have hlength := (List.getElem?_eq_some_iff.1 hi).1
        rw [groupCode, Body.between, List.length_take] at hlength
        omega
      rw [line?_take_groupCode c region hfits hagree hj hk, Option.some.injEq] at he
      rw [getElem?_groupCode c region hk] at hi
      obtain ⟨o', ho', hi'⟩ := exists_operation c region hi
      rw [← he, ← hi']
      exact h _ _ ho'
  · rintro ⟨hone, h⟩ p o' hp
    have hcode := code_of_instrumented c region hp
    rcases exists_group_of_getElem? c region hp with hlt | ⟨j, hj, hstart, hstop⟩
    · interval_cases p
      · rw [hfirst, Option.some.injEq] at hcode
        rw [← hcode, hfits.entry]
        refine ⟨Nat.zero_le b, fun d hd => ?_⟩
        cases hd
        exact hone
      · rw [hsecond, Option.some.injEq] at hcode
        rw [← hcode, depth_one c region hfits]
        refine ⟨hone, fun d hd => ?_⟩
        rw [after?_startTest c hc, Option.some.injEq] at hd
        omega
    · have hget : m.operations[j]? = some m.operations[j] := List.getElem?_eq_getElem hj
      obtain ⟨k, rfl⟩ := Nat.exists_eq_add_of_le hstart
      have hline := line?_take_groupCode c region hfits hagree hget hstop
      rw [← getElem?_groupCode c region hstop] at hcode
      exact (StackModel.stays_iff.1 (h j hj)).2 k _ _ hcode hline

end Fits

/-! ### Depths that fit -/

/-- The operation in whose group a position lies. -/
def groupOf (m : MethodDefinition) (c : InstrumentConfig) (region : ExceptionRegion) (p : ℕ) : ℕ :=
  Nat.findGreatest (fun j => m.groupStart c region j ≤ p) m.operations.length

theorem groupOf_add {k : ℕ} (hj : j < m.operations.length)
    (hk : m.groupStart c region j + k < m.groupStart c region (j + 1)) :
    m.groupOf c region (m.groupStart c region j + k) = j := by
  refine Nat.findGreatest_eq_iff.2 ⟨Nat.le_of_lt hj, fun _ => Nat.le_add_right _ _, ?_⟩
  intro i hji hi hle
  have hmono : m.groupStart c region (j + 1) ≤ m.groupStart c region i :=
    groupStart_le c region hji hi
  omega

/-- The depths of an instrumented body: along the start of the test, and along the group of every
operation. -/
def depthsOf (m : MethodDefinition) (c : InstrumentConfig) (region : ExceptionRegion)
    (M : StackModel) (depth : ℕ → ℕ) (p : ℕ) : ℕ :=
  if p < 2 then p
  else
    (M.line? ((m.groupCode c region (m.groupOf c region p)).take
      (p - m.groupStart c region (m.groupOf c region p)))
      (depth (m.groupOf c region p))).getD 0

theorem depthsOf_add {k : ℕ} (hj : j < m.operations.length)
    (hk : m.groupStart c region j + k < m.groupStart c region (j + 1)) :
    m.depthsOf c region M depth (m.groupStart c region j + k) =
      (M.line? ((m.groupCode c region j).take k) (depth j)).getD 0 := by
  have htwo := two_le_groupStart c region (Nat.le_of_lt hj)
  rw [depthsOf, if_neg (by omega), groupOf_add c region hj hk, Nat.add_sub_cancel_left]

theorem depthsOf_groupStart (hj : j < m.operations.length) :
    m.depthsOf c region M depth (m.groupStart c region j) = depth j :=
  depthsOf_add c region (k := 0) hj (groupStart_lt_succ c region hj)

theorem length_groupCode (hj : m.operations[j]? = some o) : (m.groupCode c region j).length =
    m.groupStart c region (j + 1) - m.groupStart c region j := by
  rw [groupCode_eq c region hj, groupStart_succ c region (treatments_getElem c region hj), imageAt,
    List.length_append, List.length_cons]
  omega

theorem lt_length_of_groupStart_lt (hj : j ≤ m.operations.length)
    (hlt : m.groupStart c region j < (m.instrumented c region).operations.length) :
    j < m.operations.length := by
  rw [length_instrumented, ← groupStart_length] at hlt
  exact Nat.lt_of_le_of_ne hj fun h => Nat.lt_irrefl _ (h ▸ hlt)

/-- The declared depth is not lowered. -/
theorem maxStack_le_instrumented :
    m.maxStack.toNat ≤ (m.instrumented c region).maxStack.toNat := by
  have hmax : (m.instrumented c region).maxStack =
      if m.maxStack ≤ c.leastMaxStack then c.leastMaxStack else m.maxStack := rfl
  rw [hmax]
  split_ifs with hle
  · exact hle
  · exact Nat.le_refl _

section Exists

variable {region} (h : m.Injectable region)
  (hexact : ((m.instrumented c region).operations.map Operation.size).sum < UInt32.size)
  (hclosed : m.Closed) (hc : c.api.Balanced) (hfits : M.Fits m depth)

include hc hfits in
/-- The depths of an instrumented body fit the start of the test. -/
theorem edges_prologue {p : ℕ} {o' : Operation}
    (hp : (m.instrumented c region).operations[p]? = some o') (hlt : p < 2) :
    ∃ d, M.after? o'.instruction (m.depthsOf c region M depth p) = some d ∧
      (M.continues o'.kind = true → p + 1 < (m.instrumented c region).operations.length →
        m.depthsOf c region M depth (p + 1) = d) ∧
      ∀ t, o'.operand ≠ .target t := by
  obtain ⟨hfirst, hsecond⟩ := code_prologue (m := m) c region
  have hcode := code_of_instrumented c region hp
  interval_cases p
  · rw [hfirst, Option.some.injEq] at hcode
    have hinjected : Injected c.api o'.instruction := hcode ▸ .loadString _
    exact ⟨1, by rw [← hcode]; rfl, fun _ _ => rfl, hinjected.ne_target⟩
  · rw [hsecond, Option.some.injEq] at hcode
    have hinjected : Injected c.api o'.instruction :=
      hcode ▸ .call (by simp [RecordingApi.entryPoints])
    refine ⟨0, by rw [← hcode]; exact after?_startTest c hc, fun _ hlt => ?_,
      hinjected.ne_target⟩
    have hzero : m.groupStart c region 0 = 1 + 1 := groupStart_zero c region
    rw [← hzero] at hlt ⊢
    rw [depthsOf_groupStart c region (lt_length_of_groupStart_lt c region (Nat.zero_le _) hlt),
      hfits.entry]

section Group

variable {k d e e' : ℕ} {o' : Operation} (hj : m.operations[j]? = some o)
  (hp : (m.instrumented c region).operations[m.groupStart c region j + k]? = some o')
  (hd : M.after? o.instruction (depth j) = some d)

include hc hj hp hd in
/-- When control goes on from an operation of a group, the depth behind it is the next one. -/
theorem depthsOf_next
    (hnext : M.continues o.kind = true → j + 1 < m.operations.length → depth (j + 1) = d)
    (hstop : m.groupStart c region j + k < m.groupStart c region (j + 1))
    (he' : M.line? ((m.groupCode c region j).take (k + 1)) (depth j) = some e')
    (hcontinues : M.continues o'.kind = true)
    (hlt : m.groupStart c region j + k + 1 < (m.instrumented c region).operations.length) :
    m.depthsOf c region M depth (m.groupStart c region j + k + 1) = e' := by
  have hj' : j < m.operations.length := (List.getElem?_eq_some_iff.1 hj).1
  rcases Nat.lt_or_eq_of_le hstop with hin | (hlast : m.groupStart c region j + k + 1 = _)
  · rw [Nat.add_assoc, depthsOf_add c region hj' hin, he']
    rfl
  · -- The depth behind the group is the depth behind the given operation.
    have hend : k + 1 = (m.groupCode c region j).length := by
      rw [length_groupCode c region hj]
      omega
    have hde : d = e' := by
      rw [hend, List.take_length, line?_groupCode c region hj hc, hd, Option.some.injEq] at he'
      exact he'
    rw [hlast] at hlt ⊢
    have hj'' := lt_length_of_groupStart_lt c region hj' hlt
    rw [depthsOf_groupStart c region hj'', ← hde]
    exact hnext (continues_of_last c region hj hp hlast hcontinues) hj''

include h hexact hclosed hc hj hp hd in
/-- Where an operation of a group goes to, the depth is the one behind it. -/
theorem Injectable.depthsOf_target
    (hjump : ∀ s q, o.operand = .target s → m.landing? s = some q → q < m.operations.length →
      depth q = d)
    (hstop : m.groupStart c region j + k < m.groupStart c region (j + 1))
    (he : M.line? ((m.groupCode c region j).take k) (depth j) = some e)
    (hafter : M.after? o'.instruction e = some e') {t : Offset} {q : ℕ}
    (ht : o'.operand = .target t) (hq : (m.instrumented c region).landing? t = some q)
    (hlt : q < (m.instrumented c region).operations.length) :
    m.depthsOf c region M depth q = e' := by
  -- Injected operations have no targets, so this is the image.
  have himage : m.groupStart c region j + k = m.imageAt c region j := by
    by_contra hne
    exact (injected_of_ne_imageAt c region hj hp (Nat.le_add_right _ _) hstop hne).ne_target t ht
  obtain ⟨offset, hoperation⟩ := getElem?_imageAt c region hj
  rw [← himage, hp, Option.some.injEq] at hoperation
  obtain ⟨s, hs, hst⟩ := Treatment.target_of_image (hoperation ▸ ht)
  obtain ⟨q', hq', hlanding⟩ := h.landing?_relocate c hexact
    (hclosed _ (List.mem_of_getElem? hj) s hs)
  rw [hst, hq, Option.some.injEq] at hlanding
  rw [hlanding] at hlt ⊢
  have hlt' := lt_length_of_groupStart_lt c region (le_of_landing? hq') hlt
  have hk : k = (m.headAt c region j).length := Nat.add_left_cancel himage
  rw [hk, groupCode_eq c region hj, List.take_left, line?_headAt c region hj hc,
    Option.some.injEq] at he
  rw [hoperation, ← he] at hafter
  rw [depthsOf_groupStart c region hlt', hjump s q' hs hq' hlt']
  exact Option.some.inj (hd.symm.trans ((after?_image c region hj).symm.trans hafter))

end Group

include h hexact hclosed hc hfits in
theorem Injectable.fits_depthsOf :
    M.Fits (m.instrumented c region) (m.depthsOf c region M depth) where
  entry := rfl
  edges p o' hp := by
    have hcode := code_of_instrumented c region hp
    rcases exists_group_of_getElem? c region hp with hlt | ⟨j, hj, hstart, hstop⟩
    · obtain ⟨d, hd, hnext, hnone⟩ := edges_prologue c hc hfits hp hlt
      exact ⟨d, hd, hnext, fun t q ht => absurd ht (hnone t)⟩
    · have hget : m.operations[j]? = some m.operations[j] := List.getElem?_eq_getElem hj
      obtain ⟨k, rfl⟩ := Nat.exists_eq_add_of_le hstart
      rw [← getElem?_groupCode c region hstop] at hcode
      obtain ⟨d, hd, hnext, hjump⟩ := hfits.edges j _ hget
      have hgroup : M.line? (m.groupCode c region j) (depth j) = some d := by
        rw [line?_groupCode c region hget hc, hd]
      obtain ⟨e, he⟩ := StackModel.exists_line?_take hgroup k
      obtain ⟨e', he'⟩ := StackModel.exists_line?_take hgroup (k + 1)
      have hafter : M.after? o'.instruction e = some e' := by
        rw [StackModel.line?_take_succ hcode, he] at he'
        exact he'
      refine ⟨e', ?_, depthsOf_next c hc hget hp hd hnext hstop he',
        fun t q => h.depthsOf_target c hexact hclosed hc hget hp hd hjump hstop he hafter⟩
      rw [depthsOf_add c region hj hstop, he]
      exact hafter

end Exists

end MethodDefinition

/-! ### The declared depth -/

/-- The depths of an instrumented body that agree with bounded depths of the given body rise at
most two above the bound. They stay within the depth that the instrumented body declares if and
only if at every recorded site the record has room on top of what is on the stack there. -/
theorem Instrumentation.onMethod_headroom {i : Instrumentation} {m m' : MethodDefinition}
    {tally : Tally} {logs : List LogRecord} (h : i.onMethod m = .ok ⟨m', .injected tally, logs⟩)
    (hc : i.config.api.Balanced) :
    ∃ region site start image, m.regions = [region] ∧
      m.Insertion i.config region m' tally site start image ∧
      m'.maxStack = max m.maxStack i.config.leastMaxStack ∧
      ∀ (M : StackModel) (depth : ℕ → ℕ), M.Fits m depth → M.Within m m.maxStack.toNat depth →
        (∀ depth', M.Fits m' depth' → (∀ j < m.operations.length, depth' (start j) = depth j) →
          M.Within m' (m.maxStack.toNat + 2) depth' ∧
          (M.Within m' m'.maxStack.toNat depth' ↔ 1 ≤ m'.maxStack.toNat ∧
            ∀ j < m.operations.length, depth j + (site j).headroom ≤ m'.maxStack.toNat)) ∧
        (m.Closed → (m'.operations.map Operation.size).sum < UInt32.size →
          ∃ depth', M.Fits m' depth' ∧
            ∀ j < m.operations.length, depth' (start j) = depth j) := by
  obtain ⟨region, hm, rfl, rfl⟩ := i.injectable_of_onMethod h
  refine ⟨region, _, _, _, hm.regions, hm.insertion i.config region, rfl, ?_⟩
  intro M depth hfits hwithin
  have hiff {b : ℕ} (hb : m.maxStack.toNat ≤ b) {depth' : ℕ → ℕ}
      (hfits' : M.Fits (m.instrumented i.config region) depth')
      (hagree : ∀ j < m.operations.length, depth' (m.groupStart i.config region j) = depth j) :
      M.Within (m.instrumented i.config region) b depth' ↔ 1 ≤ b ∧
        ∀ j < m.operations.length, depth j + (m.treatmentAt i.config region j).headroom ≤ b := by
    rw [MethodDefinition.within_instrumented_iff i.config region hfits' hagree hc,
      MethodDefinition.stays_groupCode_iff_headroom i.config region hc hfits hwithin hb]
  refine ⟨fun depth' hfits' hagree => ⟨?_, hiff ?_ hfits' hagree⟩, fun hclosed hexact => ?_⟩
  · refine (hiff (Nat.le_add_right _ 2) hfits' hagree).2 ⟨by omega, fun j hj => ?_⟩
    have hdepth := (hwithin j _ (List.getElem?_eq_getElem hj)).1
    have htwo := (m.treatmentAt i.config region j).headroom_le
    omega
  · exact MethodDefinition.maxStack_le_instrumented i.config region
  · exact ⟨_, hm.fits_depthsOf i.config hexact hclosed hc hfits,
      fun j hj => MethodDefinition.depthsOf_groupStart i.config region hj⟩

/-! ### An example -/

/-- A model in which operations whose kind does not tell leave the depth as it is. -/
def StackModel.sample : StackModel where
  other? _ _ d := some d
  passes _ := true

namespace MethodDefinition

/-- The depths of the example; the exception is on the stack when the handler begins. -/
def sampleDepth (p : ℕ) : ℕ :=
  [0, 1, 0, 1, 1, 0, 1, 0, 1].getD p 0

theorem fits_sample : StackModel.sample.Fits (sample 6) sampleDepth := by
  decide

theorem within_sample : StackModel.sample.Within (sample 6) 8 sampleDepth := by
  decide

/-- The region of a cramped body, which spans all of it. -/
def crampedRegion : ExceptionRegion :=
  .catchAll 0 22 22 22

/-- A test in which a call is made while an argument for another call is on the stack. -/
def cramped : MethodDefinition where
  declaringType := ⟨"N", "T", false⟩
  name := "Test"
  operations := [
    ⟨0, .newObj, .method ⟨⟨"N", "C", false⟩, ".ctor", [], none, true⟩⟩,
    ⟨5, .storeLocal, .slot 0⟩,
    ⟨6, .loadString, .text "a"⟩,
    ⟨11, .loadLocal, .slot 0⟩,
    ⟨12, .callVirt, .method ⟨⟨"N", "C", false⟩, "f", [], some .string, true⟩⟩,
    ⟨17, .call, .method ⟨⟨"N", "C", false⟩, "G", [.string, .string], none, false⟩⟩,
    ⟨22, .ret, .none⟩]
  regions := [crampedRegion]
  maxStack := 2
  locals := [⟨0, "c", ⟨"N", "C", false⟩⟩]

theorem injectable_cramped : cramped.Injectable crampedRegion where
  valid := cramped.validate_eq_ok_iff.1 (by rfl)
  regions := rfl
  aligned := (ExceptionRegion.exists_spans_iff _ _).1
    ⟨0, 6, 6, 6, ⟨_, rfl, rfl⟩, ⟨_, rfl, rfl⟩, ⟨_, rfl, rfl⟩, ⟨_, rfl, rfl⟩⟩

/-- The depths of a cramped body. -/
def crampedDepth (p : ℕ) : ℕ :=
  [0, 1, 0, 1, 2, 2, 0].getD p 0

end MethodDefinition

namespace Instrumentation

open MethodDefinition

/-- The depth that the instrumented example declares suffices. -/
theorem onMethod_sample_headroom : ∃ m' tally logs,
    ({} : Instrumentation).onMethod (.sample 6) = .ok ⟨m', .injected tally, logs⟩ ∧
      RecordingApi.standard.Balanced ∧
      StackModel.sample.Fits (.sample 6) MethodDefinition.sampleDepth ∧
      StackModel.sample.Within (.sample 6) 8 MethodDefinition.sampleDepth ∧
      ∃ depth', StackModel.sample.Fits m' depth' ∧
        StackModel.sample.Within m' m'.maxStack.toNat depth' := by
  obtain ⟨logs, h⟩ :=
    ({} : Instrumentation).onMethod_eq_injected MethodDefinition.injectable_sample
  have hc : RecordingApi.standard.Balanced := RecordingApi.balanced_ofType _
  obtain ⟨region, site, start, image, -, -, hmax, hdepths⟩ := onMethod_headroom h hc
  obtain ⟨hbound, hexists⟩ := hdepths _ _ MethodDefinition.fits_sample
    MethodDefinition.within_sample
  obtain ⟨depth', hfits, hagree⟩ := hexists MethodDefinition.scoped_sample.targets
    MethodDefinition.exact_sample
  have hroom : ∀ j < 11, MethodDefinition.sampleDepth j + (site j).headroom ≤ 8 := by
    intro j hj
    have hdepth : ∀ j < 11, MethodDefinition.sampleDepth j ≤ 1 := by decide
    have hone := hdepth j hj
    have htwo := (site j).headroom_le
    omega
  refine ⟨_, _, logs, h, hc, MethodDefinition.fits_sample, MethodDefinition.within_sample,
    depth', hfits, ?_⟩
  exact (hbound depth' hfits hagree).2.2 ⟨by decide, hroom⟩

/-- The depth that an instrumented body declares can be too small, although the depth that the
given body declares suffices. -/
theorem onMethod_cramped : ∃ m' tally logs depth',
    ({} : Instrumentation).onMethod cramped = .ok ⟨m', .injected tally, logs⟩ ∧
      StackModel.sample.Fits cramped crampedDepth ∧
      StackModel.sample.Within cramped cramped.maxStack.toNat crampedDepth ∧
      (∃ site start image, cramped.Insertion {} crampedRegion m' tally site start image ∧
        ∀ j < cramped.operations.length, depth' (start j) = crampedDepth j) ∧
      StackModel.sample.Fits m' depth' ∧
      ¬StackModel.sample.Within m' m'.maxStack.toNat depth' := by
  obtain ⟨logs, h⟩ := ({} : Instrumentation).onMethod_eq_injected injectable_cramped
  have hc : RecordingApi.standard.Balanced := RecordingApi.balanced_ofType _
  have hfits : StackModel.sample.Fits cramped crampedDepth := by decide
  have hwithin : StackModel.sample.Within cramped cramped.maxStack.toNat crampedDepth := by decide
  have hclosed : cramped.Closed := by simp [Closed, cramped]
  have hexact : ((cramped.instrumented {} crampedRegion).operations.map Operation.size).sum <
      UInt32.size := Nat.lt_of_le_of_lt (sum_size_instrumented_le _ _ _) (by decide)
  have hfits' := injectable_cramped.fits_depthsOf {} hexact hclosed hc hfits
  have hagree (j : ℕ) (hj : j < cramped.operations.length) :
      cramped.depthsOf {} crampedRegion .sample crampedDepth
        (cramped.groupStart {} crampedRegion j) = crampedDepth j :=
    depthsOf_groupStart {} crampedRegion hj
  refine ⟨_, _, logs, _, h, hfits, hwithin, ⟨_, _, _, injectable_cramped.insertion {} crampedRegion,
    hagree⟩, hfits', ?_⟩
  rw [within_instrumented_iff {} crampedRegion hfits' hagree hc,
    stays_groupCode_iff_headroom {} crampedRegion hc hfits hwithin
      (maxStack_le_instrumented {} crampedRegion)]
  rintro ⟨-, hroom⟩
  exact absurd (hroom 5 (by decide)) (by decide)

end Instrumentation

end BuildDrift
