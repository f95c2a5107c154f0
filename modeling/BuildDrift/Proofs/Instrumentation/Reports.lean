import BuildDrift.Proofs.Instrumentation.Insertion

/-!
# Which calls are reported

A call on the object under test is dealt with at the operation behind it. If this operation is
protected and does not store a value, then the call is recorded, or the tally notes why it is not.
Otherwise the call goes unnoticed: nothing stands behind it in the instrumented body, and the tally
does not mention it.

## Main definitions

* `MethodDefinition.Reports`: the record of a call stands directly behind it.
* `MethodDefinition.Notes`: the tally notes that a call is not recorded.
* `MethodDefinition.BehindCall`: how the operation behind a call is treated.

## Main results

* `MethodDefinition.behindCall_at`: every treatment behind a call is one of these.
* `MethodDefinition.reports_iff`, `MethodDefinition.notes_iff`: treatments that record or note.
* `Instrumentation.onMethod_reports`: which calls are recorded or noted.
* `Instrumentation.onMethod_silent`: a call that is neither recorded nor noted.
-/

namespace BuildDrift

open Instruction

/-! ### Records and notes -/

namespace MethodDefinition

/-- The record of the call at position `j` stands directly behind it. Groups begin at positions
`start` and hold the images of operations at positions `image`. -/
inductive Reports (m : MethodDefinition) (c : InstrumentConfig) (m' : MethodDefinition)
    (start image : ℕ → ℕ) (j : ℕ) : Prop
  /-- The object under test and the name of the callee are recorded. -/
  | plain {o : Operation} {callee : MethodRef} {subject : UInt16} (hj : m.operations[j]? = some o)
      (hcallee : o.operand = .method callee)
      (hrecord : m'.operations.between (image j + 1) (start (j + 1)) =
        Treatment.callRecord c subject callee.name)
  /-- The result is stored, and it is recorded with the object and the name. -/
  | result {o : Operation} {callee : MethodRef} {subject temporary : UInt16} {result : TypeRef}
      (hj : m.operations[j]? = some o) (hcallee : o.operand = .method callee)
      (hrecord : m'.operations.between (image j + 1) (start (j + 2)) =
        storeLocal temporary :: Treatment.resultRecord c subject temporary callee result)

/-- A tally notes the site behind the call at position `j` as unrecorded. -/
def Notes (m : MethodDefinition) (tally : Tally) (j : ℕ) : Prop :=
  ∃ p obstacle, m.operations[j + 1]? = some p ∧ ⟨p.offset, obstacle⟩ ∈ tally.unrecorded

end MethodDefinition

/-- The sites that are noted are those of the treatments. -/
theorem Tally.mem_unrecorded_ofBody_iff {treated : List (Operation × Treatment)}
    {s : UnrecordedSite} : s ∈ (ofBody treated).unrecorded ↔
      ∃ o, (o, Treatment.unrecorded s.obstacle) ∈ treated ∧ o.offset = s.offset := by
  induction treated with
  | nil => simp [ofBody]
  | cons entry treated ih =>
    obtain ⟨o, t⟩ := entry
    have hentry : s ∈ (ofTreated (o, t)).unrecorded ↔
        t = .unrecorded s.obstacle ∧ o.offset = s.offset := by
      obtain ⟨offset, obstacle⟩ := s
      cases t <;> simp [ofTreated, eq_comm, and_comm]
    rw [ofBody_cons, add, List.mem_append, hentry, ih]
    simp only [List.mem_cons, Prod.mk.injEq, or_and_right, exists_or]
    refine or_congr_left ⟨fun h => ⟨o, ⟨rfl, h.1.symm⟩, h.2⟩, ?_⟩
    rintro ⟨_, ⟨rfl, ht⟩, hoffset⟩
    exact ⟨ht.symm, hoffset⟩

namespace MethodDefinition

/-! ### Behind a call -/

/-- How an operation `p` behind a call `o` is treated. -/
inductive BehindCall (region : ExceptionRegion) (o p : Operation) : Treatment → Prop
  | silent (h : ¬(region.inTry p.offset = true ∧ p.kind ≠ .storeLocal)) :
      BehindCall region o p .keep
  | noted {obstacle} (h : region.inTry p.offset = true ∧ p.kind ≠ .storeLocal) :
      BehindCall region o p (.unrecorded obstacle)
  | plain {subject callee} (h : region.inTry p.offset = true ∧ p.kind ≠ .storeLocal)
      (hcallee : o.operand = .method callee) : BehindCall region o p (.plainCall subject callee)
  | result {subject temporary callee result}
      (h : region.inTry p.offset = true ∧ p.kind ≠ .storeLocal)
      (hcallee : o.operand = .method callee) (hpop : p.kind = .pop) :
      BehindCall region o p (.resultCall subject temporary callee result)

variable {m : MethodDefinition} (c : InstrumentConfig) (region : ExceptionRegion) {j : ℕ}
  {o p : Operation}

/-- Every operation behind a call is treated in one of these ways. -/
theorem behindCall_at (hj : m.operations[j]? = some o) (hcall : o.kind = .callVirt)
    (hp : m.operations[j + 1]? = some p) :
    BehindCall region o p (m.treatmentAt c region (j + 1)) := by
  have hlt : j < m.operations.length := (List.getElem?_eq_some_iff.1 hj).1
  have hrule := rule_at c region hp
  rw [Body.before?_succ hlt, hj] at hrule
  have hmethod {callee : MethodRef} (h : o.method? = some callee) : o.operand = .method callee := by
    rcases o with ⟨offset, kind, operand⟩
    cases operand <;> simp_all [Operation.method?]
  have hisStore : p.isStore = false ↔ p.kind ≠ .storeLocal := by simp [Operation.isStore]
  generalize htry : region.inTry p.offset = inTry at hrule
  generalize m.treatmentAt c region (j + 1) = t at hrule ⊢
  generalize m.found c region (j + 1 + 1) = q at hrule
  cases hrule with
  | unprotected => exact .silent fun h => by simp [htry] at h
  | plainStore hstore hkind => exact .silent fun h => by simp_all
  | construction hstore hkind hslot => simp [hcall] at hkind
  | unknownVariable hstore hkind hslot => simp [hcall] at hkind
  | plain hstore hkind => exact absurd hcall hkind
  | unknownCallee hstore hkind hcallee => exact .noted ⟨htry, hisStore.1 hstore⟩
  | noSubject hstore hkind hcallee hsubject => exact .noted ⟨htry, hisStore.1 hstore⟩
  | plainCall hstore hkind hcallee hsubject hpop =>
    exact .plain ⟨htry, hisStore.1 hstore⟩ (hmethod hcallee)
  | noResult hkind hcallee hsubject hpop hresult => exact .noted ⟨htry, by simp [hpop]⟩
  | noSlot hkind hcallee hsubject hpop hresult hfull => exact .noted ⟨htry, by simp [hpop]⟩
  | resultCall hkind hcallee hsubject hpop hresult hadd =>
    exact .result ⟨htry, by simp [hpop]⟩ (hmethod hcallee) hpop

/-- A call is followed by nothing but what the operation behind it asks for. -/
theorem tailAt_of_call (hj : m.operations[j]? = some o) (hcall : o.kind = .callVirt) :
    m.tailAt c region j = (m.treatmentAt c region (j + 1)).lead c := by
  have hsite := site_at c region hj
  rw [tailAt_eq c region hj]
  generalize m.treatmentAt c region j = t at hsite ⊢
  cases hsite with
  | construction _ _ _ _ hkind => simp [hcall] at hkind
  | resultCall _ _ _ _ _ _ hpop => simp [hcall] at hpop
  | _ => rfl

/-- The instructions from behind a call to the end of the group behind it. -/
theorem between_call (hj : m.operations[j]? = some o) (hcall : o.kind = .callVirt)
    (hp : m.operations[j + 1]? = some p) :
    (m.instrumented c region).operations.between (m.imageAt c region j + 1)
        (m.groupStart c region (j + 2)) =
      (m.treatmentAt c region (j + 1)).lead c ++
        ((if p.kind = .ret then [call c.api.endTest] else []) ++
          (m.treatmentAt c region (j + 1)).image (m.relocate c region) p ::
            ((m.treatmentAt c region (j + 1)).trail c ++
              (m.treatmentAt c region (j + 2)).lead c)) := by
  have ht := treatments_getElem c region hj
  have hu := treatments_getElem c region hp
  have hlength : m.groupStart c region (j + 2) - (m.imageAt c region j + 1) =
      (m.tailAt c region j ++ (m.headAt c region (j + 1) ++
        (m.treatmentAt c region (j + 1)).image (m.relocate c region) p ::
          m.tailAt c region (j + 1))).length := by
    rw [groupStart_succ c region hu, imageAt, groupStart_succ c region ht]
    simp only [List.length_append, List.length_cons]
    omega
  rw [← headAt_eq c region hp, ← tailAt_eq c region hp, ← tailAt_of_call c region hj hcall,
    between_instrumented, drop_code_imageAt c region ht, drop_code c region hu, hlength]
  simp only [← List.append_assoc, ← List.cons_append]
  exact List.take_left

/-- An operation that is kept, with what little follows it, is no record of a result. -/
theorem ne_record_of_kept {l : List Instruction} (hl : l.length ≤ 3) {i : Instruction}
    {subject temporary : UInt16} {callee : MethodRef} {result : TypeRef} :
    (if p.kind = .ret then [call c.api.endTest] else []) ++ i :: l ≠
      storeLocal temporary :: Treatment.resultRecord c subject temporary callee result := by
  intro h
  split_ifs at h
  · simp [call, storeLocal] at h
  · have hlength := congrArg List.length (List.cons.inj h).2
    simp only [Treatment.resultRecord, List.length_append, List.length_cons, List.length_nil]
      at hlength
    omega

theorem length_lead_le (t : Treatment) : (t.lead c).length ≤ 3 := by
  cases t <;> simp [Treatment.lead, Treatment.callRecord]

/-- Behind a call at the end of the body there is no record. -/
theorem not_reports_of_last (hj : m.operations[j]? = some o) (hcall : o.kind = .callVirt)
    (hlast : m.operations.length ≤ j + 1) :
    ¬m.Reports c (m.instrumented c region) (m.groupStart c region) (m.imageAt c region) j := by
  have hnil (q : ℕ) : (m.instrumented c region).operations.between (m.imageAt c region j + 1) q =
      [] := by
    rw [between_instrumented, drop_code_imageAt c region (treatments_getElem c region hj),
      tailAt_of_call c region hj hcall, treatmentAt_of_length_le m c region hlast,
      groupStart_of_length_le c region hlast, List.drop_length]
    exact List.take_nil
  intro h
  cases h with
  | plain _ _ hrecord =>
    exact absurd ((hnil _).symm.trans hrecord) (by simp [Treatment.callRecord])
  | result _ _ hrecord => exact absurd ((hnil _).symm.trans hrecord) (by simp)

/-- The record of a call stands behind it if the operation behind the call is treated so. -/
theorem reports_iff (hj : m.operations[j]? = some o) (hcall : o.kind = .callVirt) :
    m.Reports c (m.instrumented c region) (m.groupStart c region) (m.imageAt c region) j ↔
      (m.treatmentAt c region (j + 1)).isPlainCall = true ∨
        (m.treatmentAt c region (j + 1)).isResultCall = true := by
  cases hp : m.operations[j + 1]? with
  | none =>
    have hlast := List.getElem?_eq_none_iff.1 hp
    refine iff_of_false (not_reports_of_last c region hj hcall hlast) ?_
    rw [treatmentAt_of_length_le m c region hlast]
    simp [Treatment.isPlainCall, Treatment.isResultCall]
  | some p =>
    have hplain := between_behind c region hj
    have hresult := between_call c region hj hcall hp
    rw [tailAt_of_call c region hj hcall] at hplain
    have hbehind := behindCall_at c region hj hcall hp
    have hlead := length_lead_le c (m.treatmentAt c region (j + 2))
    generalize m.treatmentAt c region (j + 1) = t at hplain hresult hbehind ⊢
    cases hbehind with
    | plain _ hcallee => exact iff_of_true (.plain hj hcallee hplain) (.inl rfl)
    | result _ hcallee hpop =>
      rw [if_neg (by simp [hpop]), lead_of_ne_call c region hp (by simp [hpop]),
        List.append_nil] at hresult
      exact iff_of_true (.result hj hcallee hresult) (.inr rfl)
    | silent _ | noted _ =>
      refine iff_of_false ?_ (by simp [Treatment.isPlainCall, Treatment.isResultCall])
      intro h
      cases h with
      | plain _ _ hrecord =>
        exact absurd (hplain.symm.trans hrecord) (by simp [Treatment.lead, Treatment.callRecord])
      | result _ _ hrecord => exact ne_record_of_kept c hlead (hresult.symm.trans hrecord)

/-- The tally notes the site behind a call if the operation there is treated so. -/
theorem notes_iff (hm : m.operations.Ordered) (hp : m.operations[j + 1]? = some p) :
    m.Notes (m.tally c region) j ↔
      ∃ obstacle, m.treatmentAt c region (j + 1) = .unrecorded obstacle := by
  simp only [Notes, tally, Tally.mem_unrecorded_ofBody_iff, mem_treatments_iff]
  constructor
  · rintro ⟨p', obstacle, hp', q, ⟨k, hk, ht⟩, hoffset⟩
    obtain rfl := Option.some.inj (hp.symm.trans hp')
    obtain rfl := hm.offset_inj hk hp hoffset
    exact ⟨obstacle, ht⟩
  · rintro ⟨obstacle, ht⟩
    exact ⟨p, obstacle, hp, p, ⟨_, hp, ht⟩, rfl⟩

end MethodDefinition

namespace Instrumentation

/-- A call is recorded directly behind it, or noted as unrecorded, if the operation behind it is
protected and does not store a value. Otherwise it is neither, and it is never both. -/
theorem onMethod_reports {i : Instrumentation} {m m' : MethodDefinition} {tally : Tally}
    {logs : List LogRecord} (h : i.onMethod m = .ok ⟨m', .injected tally, logs⟩) :
    ∃ region site start image, m.regions = [region] ∧
      m.Insertion i.config region m' tally site start image ∧
      ∀ j o, m.operations[j]? = some o → o.kind = .callVirt →
        (m.Reports i.config m' start image j ∨ m.Notes tally j ↔
          ∃ p, m.operations[j + 1]? = some p ∧ region.inTry p.offset = true ∧
            p.kind ≠ .storeLocal) ∧
        ¬(m.Reports i.config m' start image j ∧ m.Notes tally j) := by
  obtain ⟨region, hm, rfl, rfl⟩ := i.injectable_of_onMethod h
  refine ⟨region, _, _, _, hm.regions, hm.insertion i.config region, fun j o hj hcall => ?_⟩
  rw [MethodDefinition.reports_iff _ _ hj hcall]
  cases hp : m.operations[j + 1]? with
  | none =>
    rw [m.treatmentAt_of_length_le i.config region (List.getElem?_eq_none_iff.1 hp)]
    simp [MethodDefinition.Notes, hp, Treatment.isPlainCall, Treatment.isResultCall]
  | some p =>
    have hbehind := MethodDefinition.behindCall_at i.config region hj hcall hp
    rw [MethodDefinition.notes_iff i.config region hm.valid.ordered hp]
    simp only [Option.some.injEq, exists_eq_left']
    generalize m.treatmentAt i.config region (j + 1) = t at hbehind ⊢
    cases hbehind with
    | silent hsilent => simpa [Treatment.isPlainCall, Treatment.isResultCall] using hsilent
    | noted hasked => simpa [Treatment.isPlainCall, Treatment.isResultCall] using hasked
    | plain hasked _ => simpa [Treatment.isPlainCall] using hasked
    | result hasked _ _ => simpa [Treatment.isPlainCall, Treatment.isResultCall] using hasked

/-- No call of the example is silent. -/
theorem onMethod_sample_reports : ∃ m' tally logs,
    ({} : Instrumentation).onMethod (.sample 6) = .ok ⟨m', .injected tally, logs⟩ ∧
      ∃ start image, ∀ j ∈ [3, 6], (MethodDefinition.sample 6).Reports {} m' start image j ∨
        (MethodDefinition.sample 6).Notes tally j := by
  obtain ⟨logs, h⟩ :=
    ({} : Instrumentation).onMethod_eq_injected MethodDefinition.injectable_sample
  obtain ⟨region, site, start, image, hregion, -, hreports⟩ := onMethod_reports h
  obtain rfl := (List.cons.inj hregion).1
  refine ⟨_, _, logs, h, start, image, ?_⟩
  simp only [List.mem_cons, List.not_mem_nil, or_false, forall_eq_or_imp, forall_eq]
  exact ⟨(hreports 3 _ rfl rfl).1.2 ⟨_, rfl, by decide, by decide⟩,
    (hreports 6 _ rfl rfl).1.2 ⟨_, rfl, by decide, by decide⟩⟩

end Instrumentation

/-! ### A silent call -/

namespace MethodDefinition

/-- The region of the example, which spans the whole body. -/
def storingRegion : ExceptionRegion :=
  .catchAll 0 30 30 30

/-- A test that stores the result of the only call that it makes on the object under test. -/
def storing : MethodDefinition where
  declaringType := ⟨"Sample", "StackTest", false⟩
  name := "Test"
  operations := [
    ⟨0, .newObj, .method ⟨sampleSubject, ".ctor", [], none, true⟩⟩,
    ⟨6, .storeLocal, .slot 0⟩,
    ⟨12, .loadLocal, .slot 0⟩,
    ⟨18, .callVirt, .method ⟨sampleSubject, "Count", [], some .int32, true⟩⟩,
    ⟨24, .storeLocal, .slot 1⟩,
    ⟨30, .ret, .none⟩]
  regions := [storingRegion]
  locals := [⟨0, "stack", sampleSubject⟩, ⟨1, "count", .int32⟩]

theorem injectable_storing : storing.Injectable storingRegion where
  valid := storing.validate_eq_ok_iff.1 (by rfl)
  regions := rfl
  aligned := (ExceptionRegion.exists_spans_iff _ _).1
    ⟨0, 5, 5, 5, ⟨_, rfl, rfl⟩, ⟨_, rfl, rfl⟩, ⟨_, rfl, rfl⟩, ⟨_, rfl, rfl⟩⟩

end MethodDefinition

/-- A protected call with a known callee is neither recorded nor noted: the name of its callee is
not even loaded. -/
theorem Instrumentation.onMethod_silent : ∃ m' tally logs,
    ({} : Instrumentation).onMethod .storing = .ok ⟨m', .injected tally, logs⟩ ∧
      MethodDefinition.storing.operations[3]? = some ⟨18, .callVirt,
        .method ⟨MethodDefinition.sampleSubject, "Count", [], some .int32, true⟩⟩ ∧
      MethodDefinition.storingRegion.inTry 18 = true ∧
      loadString "Count" ∉ m'.operations.instructions ∧ tally.unrecorded = [] := by
  obtain ⟨logs, h⟩ :=
    ({} : Instrumentation).onMethod_eq_injected MethodDefinition.injectable_storing
  refine ⟨_, _, logs, h, rfl, by decide, ?_, by decide⟩
  rw [MethodDefinition.instrumented, Body.instructions_packed]
  decide

end BuildDrift
