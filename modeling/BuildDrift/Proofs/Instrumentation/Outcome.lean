import BuildDrift.Instrumentation.Basic
import BuildDrift.Proofs.Instrumentation.Placement
import BuildDrift.Proofs.Model.Valid

/-!
# Which methods are instrumented

Records are injected exactly into the valid methods with a single region whose bounds are
operations. The body of such a method is the packed body of its tiles, and its region spans the
groups of the operations that the given region spans.

## Main definitions

* `ExceptionRegion.Spans`: the positions at which the ranges of a region start and end.
* `MethodDefinition.Injectable`: the methods into which records are injected.
* `MethodDefinition.instrumented`: the method with records injected.
* `MethodDefinition.Relocated`: where targets lead.
* `Instrumentation.Outcome`: the ways in which the pass over a single method can end.

## Main results

* `Instrumentation.onMethod_eq_injected`: what becomes of an injectable method.
* `Instrumentation.outcome_onMethod`: what becomes of a method.
* `Instrumentation.injectable_of_onMethod`: only injectable methods are instrumented.
* `Instrumentation.onMethod_eq_error_iff`: only malformed methods are refused.
* `MethodDefinition.Valid.relocated`: the three cases of a target.
* `ExceptionRegion.Spans.moved`: what the moved region spans.
-/

namespace BuildDrift

open Instruction

/-! ### Ranges as positions -/

namespace ExceptionRegion

/-- The ranges of a region start and end at the operations at these positions. -/
structure Spans (r : ExceptionRegion) (body : Body)
    (tryFirst tryLast handlerFirst handlerLast : ℕ) : Prop where
  /-- The first protected operation. -/
  tryFirst : body.HasOffset tryFirst r.tryStart
  /-- The last protected operation. -/
  tryLast : body.HasOffset tryLast r.tryEnd
  /-- The first operation of the handler. -/
  handlerFirst : body.HasOffset handlerFirst r.handlerStart
  /-- The last operation of the handler. -/
  handlerLast : body.HasOffset handlerLast r.handlerEnd

/-- An offset lies between those of two operations when its position does. -/
private theorem between_iff {body : Body} (hb : body.Ordered) {first last i : ℕ}
    {start stop : Offset} (hfirst : body.HasOffset first start)
    (hlast : body.HasOffset last stop) {o : Operation} (hi : body[i]? = some o) :
    (decide (start ≤ o.offset) && decide (o.offset ≤ stop)) = true ↔ first ≤ i ∧ i ≤ last := by
  obtain ⟨p, hp, rfl⟩ := hfirst
  obtain ⟨q, hq, rfl⟩ := hlast
  rw [Bool.and_eq_true, decide_eq_true_iff, decide_eq_true_iff, hb.offset_le_iff hp hi,
    hb.offset_le_iff hi hq]

namespace Spans

variable {r : ExceptionRegion} {body : Body}
  {tryFirst tryLast handlerFirst handlerLast i : ℕ} {o : Operation}

/-- The protected operations are those between the positions that the region spans. -/
theorem inTry_iff (h : r.Spans body tryFirst tryLast handlerFirst handlerLast)
    (hb : body.Ordered) (hi : body[i]? = some o) :
    r.inTry o.offset = true ↔ tryFirst ≤ i ∧ i ≤ tryLast :=
  between_iff hb h.tryFirst h.tryLast hi

/-- The operations of the handler are those between the positions that the region spans. -/
theorem inHandler_iff (h : r.Spans body tryFirst tryLast handlerFirst handlerLast)
    (hb : body.Ordered) (hi : body[i]? = some o) :
    r.inHandler o.offset = true ↔ handlerFirst ≤ i ∧ i ≤ handlerLast :=
  between_iff hb h.handlerFirst h.handlerLast hi

end Spans

theorem exists_spans_iff (r : ExceptionRegion) (body : Body) :
    (∃ a b c d, r.Spans body a b c d) ↔ ∀ bound ∈ r.bounds, ∃ o ∈ body, o.offset = bound := by
  have hmem (bound : Offset) : (∃ o ∈ body, o.offset = bound) ↔
      ∃ i, body.HasOffset i bound := by
    constructor
    · rintro ⟨o, ho, hoffset⟩
      obtain ⟨i, hi⟩ := List.mem_iff_getElem?.1 ho
      exact ⟨i, o, hi, hoffset⟩
    · rintro ⟨i, o, hi, hoffset⟩
      exact ⟨o, List.mem_of_getElem? hi, hoffset⟩
  simp only [bounds, List.forall_mem_cons, hmem]
  constructor
  · rintro ⟨a, b, c, d, h⟩
    exact ⟨⟨a, h.tryFirst⟩, ⟨b, h.tryLast⟩, ⟨c, h.handlerFirst⟩, ⟨d, h.handlerLast⟩, by simp⟩
  · rintro ⟨⟨a, ha⟩, ⟨b, hb⟩, ⟨c, hc⟩, ⟨d, hd⟩, -⟩
    exact ⟨a, b, c, d, ha, hb, hc, hd⟩

end ExceptionRegion

/-! ### Injectable methods -/

namespace MethodDefinition

/-- A valid method with a single region whose bounds are operations. -/
structure Injectable (m : MethodDefinition) (region : ExceptionRegion) : Prop where
  /-- The rules of bodies are kept. -/
  valid : m.Valid
  /-- There is no other region. -/
  regions : m.regions = [region]
  /-- Every bound of the region is an operation. -/
  aligned : ∀ bound ∈ region.bounds, ∃ o ∈ m.operations, o.offset = bound

/-- The region of an injectable method starts and stops at operations. -/
theorem Injectable.exists_spans {m : MethodDefinition} {region : ExceptionRegion}
    (h : m.Injectable region) : ∃ a b a' b', region.Spans m.operations a b a' b' :=
  (region.exists_spans_iff _).2 h.aligned

variable (m : MethodDefinition) (c : InstrumentConfig) (region : ExceptionRegion)

/-- The method with records injected. -/
def instrumented : MethodDefinition :=
  { m with
    operations := Body.packed 0 (m.code c region)
    regions := [m.movedRegion c region]
    locals := (m.treatments c region).2.temporaries.locals
    maxStack := max m.maxStack c.leastMaxStack }

/-- What has been injected into the method. -/
def tally : Tally :=
  .ofBody (m.treatments c region).1

/-! ### The instrumented body -/

theorem getElem?_instrumented (p : ℕ) : (m.instrumented c region).operations[p]? =
    (m.code c region)[p]?.map
      fun i => ⟨.capped (weight ((m.code c region).take p)), i.1, i.2⟩ := by
  rw [instrumented, Body.getElem?_packed, Nat.zero_add]

theorem length_instrumented :
    (m.instrumented c region).operations.length = (m.code c region).length :=
  Body.length_packed 0 _

theorem codeSize_instrumented :
    (m.instrumented c region).codeSize = .capped (weight (m.code c region)) :=
  codeSizeOf_packed _

/-- The bytes of a body are those of its instructions. -/
theorem sum_size_instrumented :
    ((m.instrumented c region).operations.map Operation.size).sum = weight (m.code c region) := by
  rw [← Body.instructions_packed 0 (m.code c region), weight, Body.instructions, List.map_map]
  rfl

variable {m c region}

/-- An instrumented body that is in range is ordered. -/
theorem ordered_instrumented
    (hexact : ((m.instrumented c region).operations.map Operation.size).sum < UInt32.size) :
    (m.instrumented c region).operations.Ordered := by
  rw [sum_size_instrumented] at hexact
  exact Body.ordered_packed (by rwa [Nat.zero_add])

theorem Valid.endOffset?_eq (hm : m.Valid) {last : Operation}
    (hlast : m.operations.getLast? = some last) : last.endOffset? = some m.codeSize := by
  rw [codeSize, codeSizeOf, hlast]
  simp only [Operation.endOffset?, Offset.advance?, if_pos (hm.ends last hlast), Option.getD_some]

/-- Nothing stands at the end of a valid body. -/
theorem Valid.offset_ne_codeSize (hm : m.Valid) : ∀ o ∈ m.operations, o.offset ≠ m.codeSize := by
  intro o ho
  have hlast := List.getLast?_eq_some_getLast (List.ne_nil_of_mem ho)
  exact UInt32.ne_of_lt (hm.ordered.offset_lt_end hlast (hm.endOffset?_eq hlast) ho)

/-- Where a target of the given body leads in the instrumented one. -/
inductive Relocated (m : MethodDefinition) (c : InstrumentConfig) (region : ExceptionRegion)
    (t : Offset) : Offset → Prop
  /-- A target at an operation leads to its group. -/
  | group {j : ℕ} {o : Operation} (hj : m.operations[j]? = some o) (ht : o.offset = t) :
      Relocated m c region t (m.groupOffset c region j)
  /-- A target at the end leads to the end. -/
  | codeEnd (hnone : ∀ o ∈ m.operations, o.offset ≠ t) (ht : t = m.codeSize) :
      Relocated m c region t (m.instrumented c region).codeSize
  /-- Any other target is kept. -/
  | nowhere (hnone : ∀ o ∈ m.operations, o.offset ≠ t) (ht : t ≠ m.codeSize) :
      Relocated m c region t t

/-- Targets of a valid body are operations, its end, or neither. -/
theorem Valid.relocated (hm : m.Valid) (c : InstrumentConfig) (region : ExceptionRegion)
    (t : Offset) :
    Relocated m c region t (m.relocate c region t) := by
  by_cases hoperation : ∃ o ∈ m.operations, o.offset = t
  · obtain ⟨o, ho, rfl⟩ := hoperation
    obtain ⟨j, hj⟩ := List.mem_iff_getElem?.1 ho
    rw [relocate_offset c region hm.ordered hj]
    exact .group hj rfl
  · have hnone : ∀ o ∈ m.operations, o.offset ≠ t := fun o ho h => hoperation ⟨o, ho, h⟩
    by_cases hend : t = m.codeSize
    · rw [hend, relocate_codeSize c region hm.ordered hm.offset_ne_codeSize,
        ← codeSize_instrumented]
      exact .codeEnd (hend ▸ hnone) rfl
    · rw [relocate_nowhere c region hm.ordered hnone hend]
      exact .nowhere hnone hend

end MethodDefinition

/-- The moved region spans the groups of what the given region spans. -/
theorem ExceptionRegion.Spans.moved {m : MethodDefinition} {r : ExceptionRegion}
    (c : InstrumentConfig) (hm : m.operations.Ordered) {a b a' b' : ℕ}
    (h : r.Spans m.operations a b a' b') :
    (m.movedRegion c r).Spans (m.instrumented c r).operations (m.groupStart c r a)
      (m.groupStart c r (b + 1) - 1) (m.groupStart c r a') (m.groupStart c r (b' + 1) - 1) := by
  have hstart {j : ℕ} {bound : Offset} (hj : m.operations.HasOffset j bound) :
      (m.instrumented c r).operations.HasOffset (m.groupStart c r j)
        ((Layout.ofDraft (m.opening c) (m.tiles c r)).start bound) := by
    obtain ⟨o, ho, rfl⟩ := hj
    obtain ⟨t, ht⟩ := m.getElem?_treatments c r ho
    rw [Body.HasOffset, m.getElem?_instrumented,
      List.getElem?_eq_getElem (MethodDefinition.groupStart_lt_length c r ht), Option.map_some]
    exact ⟨_, rfl, (MethodDefinition.start_offset c r hm ho).symm⟩
  have hstop {j : ℕ} {bound : Offset} (hj : m.operations.HasOffset j bound) :
      (m.instrumented c r).operations.HasOffset (m.groupStart c r (j + 1) - 1)
        ((Layout.ofDraft (m.opening c) (m.tiles c r)).stop bound) := by
    obtain ⟨o, ho, rfl⟩ := hj
    have hlt : m.groupStart c r (j + 1) - 1 < (m.code c r).length := by
      have hj : j < m.operations.length := (List.getElem?_eq_some_iff.1 ho).1
      have hle : m.groupStart c r (j + 1) ≤ m.groupStart c r m.operations.length :=
        MethodDefinition.groupStart_le c r hj (Nat.le_refl _)
      have hlt := MethodDefinition.groupStart_lt_succ c r hj
      rw [MethodDefinition.groupStart_length] at hle
      omega
    rw [Body.HasOffset, m.getElem?_instrumented, List.getElem?_eq_getElem hlt, Option.map_some]
    exact ⟨_, rfl, (MethodDefinition.stop_offset c r hm ho).symm⟩
  exact ⟨hstart h.tryFirst, hstop h.tryLast, hstart h.handlerFirst, hstop h.handlerLast⟩

namespace Instrumentation

variable (i : Instrumentation) {m : MethodDefinition} {region : ExceptionRegion}

theorem isAligned_iff {body : Body} (hb : body.Ordered) :
    isAligned body region = true ↔ ∀ bound ∈ region.bounds, ∃ o ∈ body, o.offset = bound := by
  simp only [isAligned, List.all_eq_true, hb.standsAt_iff]

/-- Records are injected into an injectable method. -/
theorem onMethod_eq_injected (h : m.Injectable region) : ∃ logs,
    i.onMethod m =
      .ok ⟨m.instrumented i.config region, .injected (m.tally i.config region), logs⟩ := by
  obtain ⟨logs, hlogs⟩ := MethodDefinition.inject_eq_ok i.config region h.valid.ordered
  refine ⟨logs, ?_⟩
  have haligned := (isAligned_iff h.valid.ordered).2 h.aligned
  simp only [onMethod, (m.validate_eq_ok_iff).2 h.valid, h.regions, Except.mapError, bind,
    Except.bind, haligned, hlogs]
  rfl

/-- A valid method with a single region is returned as it is when a bound of the region is no
operation. -/
theorem onMethod_eq_unaligned (hm : m.Valid) (hregions : m.regions = [region])
    (haligned : ¬ ∀ bound ∈ region.bounds, ∃ o ∈ m.operations, o.offset = bound) :
    i.onMethod m = .ok (.pass m .unalignedRegion) := by
  rw [← isAligned_iff hm.ordered, Bool.not_eq_true] at haligned
  simp only [onMethod, (m.validate_eq_ok_iff).2 hm, hregions, Except.mapError, bind, Except.bind,
    haligned]
  rfl

theorem onMethod_eq_malformed {cause : Malformation} (h : m.validate = .error cause) :
    i.onMethod m = .error (.malformed cause) := by
  rw [onMethod, h]
  rfl

theorem onMethod_eq_noRegion (hm : m.Valid) (h : m.regions = []) :
    i.onMethod m = .ok (.pass m .noRegion) := by
  rw [onMethod, (m.validate_eq_ok_iff).2 hm, h]
  rfl

theorem onMethod_eq_severalRegions (hm : m.Valid) (h : 2 ≤ m.regions.length) :
    i.onMethod m = .ok (.pass m (.severalRegions m.regions.length)) := by
  rw [onMethod, (m.validate_eq_ok_iff).2 hm]
  rcases hregions : m.regions with _ | ⟨first, _ | ⟨second, rest⟩⟩
  · simp [hregions] at h
  · simp [hregions] at h
  · rfl

/-- The ways in which the pass over a single method can end. -/
inductive Outcome (i : Instrumentation) (m : MethodDefinition) : Except Error Instrumented → Prop
  | malformed {cause : Malformation} (h : m.validate = .error cause) :
      Outcome i m (.error (.malformed cause))
  | noRegion (hm : m.Valid) (h : m.regions = []) : Outcome i m (.ok (.pass m .noRegion))
  | severalRegions (hm : m.Valid) (h : 2 ≤ m.regions.length) :
      Outcome i m (.ok (.pass m (.severalRegions m.regions.length)))
  | unaligned {region : ExceptionRegion} (hm : m.Valid) (h : m.regions = [region])
      (haligned : ¬ ∀ bound ∈ region.bounds, ∃ o ∈ m.operations, o.offset = bound) :
      Outcome i m (.ok (.pass m .unalignedRegion))
  | injected {region : ExceptionRegion} {logs : List LogRecord} (h : m.Injectable region) :
      Outcome i m (.ok ⟨m.instrumented i.config region, .injected (m.tally i.config region), logs⟩)

variable (m) in
theorem outcome_onMethod : i.Outcome m (i.onMethod m) := by
  cases hvalid : m.validate with
  | error cause =>
    rw [i.onMethod_eq_malformed hvalid]
    exact .malformed hvalid
  | ok _ =>
    have hm := (m.validate_eq_ok_iff).1 hvalid
    rcases hregions : m.regions with _ | ⟨region, _ | ⟨second, rest⟩⟩
    · rw [i.onMethod_eq_noRegion hm hregions]
      exact .noRegion hm hregions
    · by_cases haligned : ∀ bound ∈ region.bounds, ∃ o ∈ m.operations, o.offset = bound
      · have hinjectable : m.Injectable region := ⟨hm, hregions, haligned⟩
        obtain ⟨logs, hlogs⟩ := i.onMethod_eq_injected hinjectable
        rw [hlogs]
        exact .injected hinjectable
      · rw [i.onMethod_eq_unaligned hm hregions haligned]
        exact .unaligned hm hregions haligned
    · have hlength : 2 ≤ m.regions.length := by simp [hregions]
      rw [i.onMethod_eq_severalRegions hm hlength]
      exact .severalRegions hm hlength

/-- Only injectable methods are instrumented. -/
theorem injectable_of_onMethod {m' : MethodDefinition} {tally : Tally} {logs : List LogRecord}
    (h : i.onMethod m = .ok ⟨m', .injected tally, logs⟩) :
    ∃ region, m.Injectable region ∧ m' = m.instrumented i.config region ∧
      tally = m.tally i.config region := by
  have houtcome := i.outcome_onMethod m
  rw [h] at houtcome
  cases houtcome with
  | injected hinjectable => exact ⟨_, hinjectable, rfl, rfl⟩

/-- Only malformed methods are refused, for what is wrong with them. -/
theorem onMethod_eq_error_iff {e : Error} :
    i.onMethod m = .error e ↔ ∃ cause, m.validate = .error cause ∧ e = .malformed cause := by
  constructor
  · intro h
    have houtcome := i.outcome_onMethod m
    rw [h] at houtcome
    cases houtcome with
    | malformed hcause => exact ⟨_, hcause, rfl⟩
  · rintro ⟨cause, hcause, rfl⟩
    exact i.onMethod_eq_malformed hcause

end Instrumentation

/-! ### An example -/

namespace MethodDefinition

/-- The type of the object that the example tests. -/
def sampleSubject : TypeRef := ⟨"Sample", "Stack", false⟩

/-- The region of the example. -/
def sampleRegion (spacing : Offset) : ExceptionRegion :=
  .catchAll 0 (7 * spacing) (8 * spacing) (9 * spacing)

/-- A test that constructs an object, drops the result of one call on it and makes another call
without a result. Its operations are evenly spaced. -/
def sample (spacing : Offset) : MethodDefinition where
  declaringType := ⟨"Sample", "StackTest", false⟩
  name := "Test"
  operations := [
    ⟨0, .newObj, .method ⟨sampleSubject, ".ctor", [], none, true⟩⟩,
    ⟨spacing, .storeLocal, .slot 0⟩,
    ⟨2 * spacing, .loadLocal, .slot 0⟩,
    ⟨3 * spacing, .callVirt, .method ⟨sampleSubject, "Count", [], some .int32, true⟩⟩,
    ⟨4 * spacing, .pop, .none⟩,
    ⟨5 * spacing, .loadLocal, .slot 0⟩,
    ⟨6 * spacing, .callVirt, .method ⟨sampleSubject, "Clear", [], none, true⟩⟩,
    ⟨7 * spacing, .leave, .target (10 * spacing)⟩,
    ⟨8 * spacing, .pop, .none⟩,
    ⟨9 * spacing, .leave, .target (10 * spacing)⟩,
    ⟨10 * spacing, .ret, .none⟩]
  regions := [sampleRegion spacing]
  locals := [⟨0, "stack", sampleSubject⟩]

theorem injectable_sample : (sample 6).Injectable (sampleRegion 6) where
  valid := (sample 6).validate_eq_ok_iff.1 (by rfl)
  regions := rfl
  aligned := (ExceptionRegion.exists_spans_iff _ _).1
    ⟨0, 7, 8, 9, ⟨_, rfl, rfl⟩, ⟨_, rfl, rfl⟩, ⟨_, rfl, rfl⟩, ⟨_, rfl, rfl⟩⟩

end MethodDefinition

end BuildDrift
