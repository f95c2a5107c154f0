import BuildDrift.Proofs.Instrumentation.Outcome

/-!
# Recorded sites

The treatments of a body, position by position, as properties of the operations: which stores,
calls and pops are recorded, which variable holds the object under test there, and which variable
keeps a result. The tally counts these sites.

## Main definitions

* `MethodDefinition.treatmentAt`: the treatment of the operation at a position.
* `Treatment.LatestSubject`: the variable that holds the object under test in front of a position.
* `MethodDefinition.Site`: what the operations around a recorded site are.

## Main results

* `MethodDefinition.site_at`: every treatment is that of such a site.
* `MethodDefinition.locals_instrumented`: the variables of the instrumented body.
* `Tally.countP_ofBody`: counters of a tally count sites.
-/

namespace BuildDrift

open Instruction

/-- Whether a construction is recorded. -/
def Treatment.isConstruction : Treatment → Bool
  | construction _ => true
  | _ => false

/-- Whether a call is recorded without its result. -/
def Treatment.isPlainCall : Treatment → Bool
  | plainCall .. => true
  | _ => false

/-- In front of a position, the object under test is in the variable of the latest recorded
construction. -/
def Treatment.LatestSubject (site : ℕ → Treatment) (j : ℕ) (slot : UInt16) : Prop :=
  ∃ k < j, site k = .construction slot ∧ ∀ l, k < l → l < j → ∀ s, site l ≠ .construction s

theorem Body.before?_eq_some {body : Body} {j : ℕ} {o p : Operation} (hj : body[j]? = some o)
    (h : body.before? j = some p) : ∃ k, j = k + 1 ∧ body[k]? = some p := by
  cases j with
  | zero =>
    rw [before?_zero] at h
    exact absurd h (by simp)
  | succ k =>
    have hk : k < body.length := Nat.lt_of_succ_lt (List.getElem?_eq_some_iff.1 hj).1
    exact ⟨k, rfl, before?_succ hk ▸ h⟩

namespace MethodDefinition

variable (m : MethodDefinition) (c : InstrumentConfig) (region : ExceptionRegion)

/-! ### Treatments by position -/

/-- The treatment of the operation at a position. -/
def treatmentAt (j : ℕ) : Treatment :=
  (m.treatments c region).1[j]?.elim .keep Prod.snd

/-- What the pass has found in front of a position. -/
def found (j : ℕ) : Progress :=
  Progress.before (fun o => region.inTry o.offset)
    { temporaries := { stem := c.temporaryPrefix, locals := m.locals } } m.operations j

theorem treatmentAt_of_length_le {j : ℕ} (hj : m.operations.length ≤ j) :
    m.treatmentAt c region j = .keep := by
  rw [← m.length_treatments c region] at hj
  rw [treatmentAt, List.getElem?_eq_none hj]
  rfl

/-- What operations around a site are, depending on how the site is treated. -/
inductive Site (site : ℕ → Treatment) (j : ℕ) (o : Operation) : Treatment → Prop
  /-- A construction is recorded at a protected store behind it. -/
  | construction {k p slot} (hj : j = k + 1) (hk : m.operations[k]? = some p)
      (hnew : p.kind = .newObj) (htry : region.inTry o.offset = true)
      (hkind : o.kind = .storeLocal) (hslot : o.operand = .slot slot) :
      Site site j o (.construction slot)
  /-- A call is recorded without its result at a protected operation behind it that neither stores
  nor drops a value. -/
  | plainCall {k p subject callee} (hj : j = k + 1) (hk : m.operations[k]? = some p)
      (hcall : p.kind = .callVirt) (hcallee : p.operand = .method callee)
      (htry : region.inTry o.offset = true) (hstore : o.kind ≠ .storeLocal) (hpop : o.kind ≠ .pop)
      (hsubject : Treatment.LatestSubject site j subject) :
      Site site j o (.plainCall subject callee)
  /-- A call is recorded with its result at a protected pop behind it. -/
  | resultCall {k p subject slot callee result} (hj : j = k + 1) (hk : m.operations[k]? = some p)
      (hcall : p.kind = .callVirt) (hcallee : p.operand = .method callee)
      (hresult : callee.returnType = some result) (htry : region.inTry o.offset = true)
      (hpop : o.kind = .pop) (hsubject : Treatment.LatestSubject site j subject)
      (hslot : slot.toNat = m.locals.length +
        (List.range j).countP fun k => (site k).isResultCall) :
      Site site j o (.resultCall subject slot callee result)
  /-- Nothing is recorded. -/
  | keep : Site site j o .keep
  /-- Nothing can be recorded. -/
  | unrecorded {obstacle} : Site site j o (.unrecorded obstacle)

section Position

variable {m} {j : ℕ} {o : Operation} (hj : m.operations[j]? = some o)
include hj

theorem treatments_getElem :
    (m.treatments c region).1[j]? = some (o, m.treatmentAt c region j) := by
  obtain ⟨t, ht⟩ := getElem?_treatments c region hj
  rw [treatmentAt, ht]
  rfl

theorem rule_at : Progress.Rule (m.found c region j) o (region.inTry o.offset)
    (m.operations.before? j) (m.treatmentAt c region j) (m.found c region (j + 1)) :=
  Progress.rule_before _ _ hj (treatments_getElem c region hj)

end Position

theorem treatmentAt_of_getElem? {j : ℕ} {o : Operation} {t : Treatment}
    (hj : (m.treatments c region).1[j]? = some (o, t)) : m.treatmentAt c region j = t := by
  rw [treatmentAt, hj]
  rfl

/-- The treatments, by position. -/
theorem mem_treatments_iff {o : Operation} {t : Treatment} :
    (o, t) ∈ (m.treatments c region).1 ↔
      ∃ j, m.operations[j]? = some o ∧ m.treatmentAt c region j = t := by
  rw [List.mem_iff_getElem?]
  refine exists_congr fun j => ⟨fun hj => ⟨?_, m.treatmentAt_of_getElem? c region hj⟩, ?_⟩
  · rw [← m.map_fst_treatments c region, List.getElem?_map, hj, Option.map_some]
  · rintro ⟨hj, rfl⟩
    exact treatments_getElem c region hj

/-- The treatments up to a position, by position. -/
theorem map_snd_take {j : ℕ} (hj : j ≤ m.operations.length) :
    ((m.treatments c region).1.take j).map Prod.snd =
      (List.range j).map (m.treatmentAt c region) := by
  refine List.ext_getElem? fun k => ?_
  rw [List.getElem?_map, List.getElem?_map]
  by_cases hk : k < j
  · obtain ⟨o, hget⟩ : ∃ o, m.operations[k]? = some o := ⟨_, List.getElem?_eq_getElem (by omega)⟩
    rw [List.getElem?_take_of_lt hk, treatments_getElem c region hget,
      List.getElem?_range hk]
    rfl
  · rw [List.getElem?_eq_none (by rw [List.length_take]; omega),
      List.getElem?_eq_none (by rw [List.length_range]; omega)]
    rfl

/-- Sites counted in front of a position. -/
theorem countP_take (f : Treatment → Bool) {j : ℕ} (hj : j ≤ m.operations.length) :
    ((m.treatments c region).1.take j).countP (fun entry => f entry.2) =
      (List.range j).countP fun k => f (m.treatmentAt c region k) := by
  have h := congrArg (List.countP f) (m.map_snd_take c region hj)
  rwa [List.countP_map, List.countP_map] at h

/-- Sites counted in the whole body. -/
theorem countP_treatments (f : Treatment → Bool) :
    (m.treatments c region).1.countP (fun entry => f entry.2) =
      (List.range m.operations.length).countP fun k => f (m.treatmentAt c region k) := by
  rw [← m.countP_take c region f (Nat.le_refl _), ← m.length_treatments c region, List.take_length]

variable {m}

theorem latestSubject_of_found {j : ℕ} (hj : j ≤ m.operations.length) {slot : UInt16}
    (h : (m.found c region j).subject = some slot) :
    Treatment.LatestSubject (m.treatmentAt c region) j slot := by
  obtain ⟨k, hk, ⟨o, ho⟩, hlatest⟩ := Progress.subject_before _ _ hj rfl h
  refine ⟨k, hk, treatmentAt_of_getElem? m c region ho, fun l hkl hl s hs => ?_⟩
  obtain ⟨p, hget⟩ : ∃ p, m.operations[l]? = some p := ⟨_, List.getElem?_eq_getElem (by omega)⟩
  have ht := treatments_getElem c region hget
  rw [hs] at ht
  exact hlatest l hkl hl _ _ ht

theorem locals_found {j : ℕ} (hj : j ≤ m.operations.length) :
    ∃ added : List LocalVariable, (m.found c region j).temporaries.locals = m.locals ++ added ∧
      added.length = (List.range j).countP fun k => (m.treatmentAt c region k).isResultCall := by
  obtain ⟨added, hlocals, hlength⟩ := Progress.locals_before
    (fun o => region.inTry o.offset)
    { temporaries := { stem := c.temporaryPrefix, locals := m.locals } } hj
  refine ⟨added, hlocals, ?_⟩
  rw [hlength, ← m.countP_take c region Treatment.isResultCall hj]
  rfl

/-- Every treatment is that of such a site. -/
theorem site_at {j : ℕ} {o : Operation} (hj : m.operations[j]? = some o) :
    m.Site region (m.treatmentAt c region) j o (m.treatmentAt c region j) := by
  have hle : j ≤ m.operations.length := Nat.le_of_lt (List.getElem?_eq_some_iff.1 hj).1
  have hsubject {slot : UInt16} (h : (m.found c region j).subject = some slot) :=
    latestSubject_of_found c region hle h
  have hrule := rule_at c region hj
  have hbefore {p : Operation} (h : m.operations.before? j = some p) :=
    Body.before?_eq_some hj h
  have hmethod {p : Operation} {callee : MethodRef} (h : p.method? = some callee) :
      p.operand = .method callee := by
    rcases p with ⟨offset, kind, operand⟩
    cases operand <;> simp_all [Operation.method?]
  generalize htry : region.inTry o.offset = inTry at hrule
  generalize ht : m.treatmentAt c region j = t at hrule
  generalize m.found c region (j + 1) = q at hrule
  generalize hprevious : m.operations.before? j = previous at hrule
  cases hrule with
  | construction hstore hkind hslot =>
    obtain ⟨k, rfl, hk⟩ := hbefore hprevious
    refine .construction rfl hk hkind htry (by simpa [Operation.isStore] using hstore) ?_
    rcases o with ⟨offset, kind, operand⟩
    cases operand <;> simp_all [Operation.slot?]
  | plainCall hstore hkind hcallee hfound hpop =>
    obtain ⟨k, rfl, hk⟩ := hbefore hprevious
    exact .plainCall rfl hk hkind (hmethod hcallee) htry (by simpa [Operation.isStore] using hstore)
      hpop (hsubject hfound)
  | resultCall hkind hcallee hfound hpop hresult hadd =>
    obtain ⟨k, rfl, hk⟩ := hbefore hprevious
    obtain ⟨added, hlocals, hlength⟩ := locals_found c region hle
    obtain ⟨hslot, -⟩ := Temporaries.add?_eq_some hadd
    refine .resultCall rfl hk hkind (hmethod hcallee) hresult htry hpop (hsubject hfound) ?_
    rw [hslot, hlocals, List.length_append, hlength]
  | unprotected | plainStore | leading | plain => exact .keep
  | _ => exact .unrecorded

/-! ### Groups -/

theorem headAt_eq {j : ℕ} {o : Operation} (hj : m.operations[j]? = some o) :
    m.headAt c region j = if o.kind = .ret then [call c.api.endTest] else [] := by
  have hsite := site_at c region hj
  simp only [headAt, treatments_getElem c region hj]
  generalize m.treatmentAt c region j = t at hsite
  cases hsite with
  | construction hj hk hnew htry hkind hslot => rw [hkind]; rfl
  | resultCall hj hk hcall hcallee hresult htry hpop => rw [hpop]; rfl
  | _ => simp [Treatment.head, Operation.isReturn]

theorem tailAt_eq {j : ℕ} {o : Operation} (hj : m.operations[j]? = some o) :
    m.tailAt c region j =
      (m.treatmentAt c region j).trail c ++ (m.treatmentAt c region (j + 1)).lead c := by
  have hlead : leadOf c ((m.treatments c region).1.drop (j + 1)) =
      (m.treatmentAt c region (j + 1)).lead c := by
    rw [treatmentAt, ← List.head?_drop]
    cases (m.treatments c region).1.drop (j + 1) <;> rfl
  rw [tailAt, treatments_getElem c region hj, ← hlead]

/-- Only a call is followed by the record of a call without its result. -/
theorem lead_of_ne_call {j : ℕ} {p : Operation} (hp : m.operations[j]? = some p)
    (hkind : p.kind ≠ .callVirt) :
    (m.treatmentAt c region (j + 1)).lead c = [] := by
  cases hq : m.operations[j + 1]? with
  | none =>
    rw [treatmentAt_of_length_le m c region (List.getElem?_eq_none_iff.1 hq)]
    rfl
  | some q =>
    have hsite := site_at c region hq
    generalize m.treatmentAt c region (j + 1) = t at hsite ⊢
    cases hsite with
    | plainCall hj hk hcall =>
      obtain rfl := Nat.succ.inj hj
      obtain rfl := Option.some.inj (hp.symm.trans hk)
      exact absurd hcall hkind
    | _ => rfl

/-! ### Variables -/

/-- The variables of the instrumented body are the declared ones and one for every recorded
result. -/
theorem locals_instrumented : ∃ added : List LocalVariable,
    (m.instrumented c region).locals = m.locals ++ added ∧
      added.length = (List.range m.operations.length).countP fun k =>
        (m.treatmentAt c region k).isResultCall := by
  obtain ⟨added, hlocals, hlength⟩ := locals_found (m := m) c region (Nat.le_refl _)
  refine ⟨added, ?_, hlength⟩
  rw [← hlocals, found, Progress.before_length]
  rfl

theorem length_locals_le : m.locals.length ≤ (m.instrumented c region).locals.length := by
  obtain ⟨added, hlocals, -⟩ := locals_instrumented (m := m) c region
  rw [hlocals, List.length_append]
  exact Nat.le_add_right _ _

/-- A temporary lies behind the declared variables and is declared itself. -/
theorem temporary_lt {j : ℕ} {o : Operation} (hj : m.operations[j]? = some o)
    {subject slot : UInt16} {callee : MethodRef} {result : TypeRef}
    (h : m.treatmentAt c region j = .resultCall subject slot callee result) :
    m.locals.length ≤ slot.toNat ∧ slot.toNat < (m.instrumented c region).locals.length := by
  have hsite := site_at c region hj
  rw [h] at hsite
  cases hsite with
  | resultCall hk hget hcall hcallee hresult htry hpop hsubject hslot =>
    obtain ⟨added, hlocals, hlength⟩ := locals_instrumented (m := m) c region
    have hlt := (List.getElem?_eq_some_iff.1 hj).1
    have hcount : (List.range j).countP (fun k => (m.treatmentAt c region k).isResultCall) + 1 ≤
        (List.range m.operations.length).countP
          fun k => (m.treatmentAt c region k).isResultCall := by
      have hsucc : (List.range (j + 1)).countP
          (fun k => (m.treatmentAt c region k).isResultCall) =
          (List.range j).countP (fun k => (m.treatmentAt c region k).isResultCall) + 1 := by
        rw [List.range_succ, List.countP_append, List.countP_singleton, h]
        rfl
      rw [← hsucc]
      exact (List.range_sublist.2 hlt).countP_le
    rw [hlocals, List.length_append, hlength, hslot]
    omega

end MethodDefinition

/-! ### Counting -/

namespace Tally

theorem ofBody_cons (entry : Operation × Treatment) (treated : List (Operation × Treatment)) :
    ofBody (entry :: treated) = (ofTreated entry).add (ofBody treated) := rfl

/-- A counter that counts single treatments counts the treatments of a body. -/
theorem countP_ofBody {counter : Tally → ℕ} {f : Operation × Treatment → Bool}
    (hzero : counter {} = 0) (hadd : ∀ t u, counter (t.add u) = counter t + counter u)
    {treated : List (Operation × Treatment)}
    (h : ∀ entry ∈ treated, counter (ofTreated entry) = (f entry).toNat) :
    counter (ofBody treated) = treated.countP f := by
  induction treated with
  | nil => exact hzero
  | cons entry treated ih =>
    rw [ofBody_cons, hadd, h entry List.mem_cons_self,
      ih fun e he => h e (List.mem_cons_of_mem entry he), List.countP_cons, Nat.add_comm]
    cases f entry <;> rfl

end Tally

namespace MethodDefinition

variable (m : MethodDefinition) (c : InstrumentConfig) (region : ExceptionRegion)

/-- A counter of the tally, when it counts sites. -/
private theorem tally_counter (counter : Tally → ℕ) {f : Treatment → Bool}
    (hzero : counter {} = 0) (hadd : ∀ t u, counter (t.add u) = counter t + counter u)
    (h : ∀ o t, counter (.ofTreated (o, t)) = (f t).toNat) :
    counter (m.tally c region) =
      (List.range m.operations.length).countP fun j => f (m.treatmentAt c region j) := by
  rw [tally, Tally.countP_ofBody (f := fun entry => f entry.2) hzero hadd fun e _ => h e.1 e.2,
    countP_treatments]

theorem tally_constructions : (m.tally c region).constructions =
    (List.range m.operations.length).countP fun j => (m.treatmentAt c region j).isConstruction :=
  m.tally_counter c region Tally.constructions rfl (fun _ _ => rfl)
    fun _ t => by cases t <;> rfl

theorem tally_plainCalls : (m.tally c region).plainCalls =
    (List.range m.operations.length).countP fun j => (m.treatmentAt c region j).isPlainCall :=
  m.tally_counter c region Tally.plainCalls rfl (fun _ _ => rfl)
    fun _ t => by cases t <;> rfl

theorem tally_resultCalls : (m.tally c region).resultCalls =
    (List.range m.operations.length).countP fun j => (m.treatmentAt c region j).isResultCall :=
  m.tally_counter c region Tally.resultCalls rfl (fun _ _ => rfl)
    fun _ t => by cases t <;> rfl

theorem tally_addedLocals : (m.tally c region).addedLocals =
    (List.range m.operations.length).countP fun j => (m.treatmentAt c region j).isResultCall :=
  m.tally_counter c region Tally.addedLocals rfl (fun _ _ => rfl)
    fun _ t => by cases t <;> rfl

/-- Every return is preceded by the end of the test. -/
theorem tally_endings :
    (m.tally c region).endings = m.operations.countP Operation.isReturn := by
  have h : ∀ entry ∈ (m.treatments c region).1,
      (Tally.ofTreated entry).endings = entry.1.isReturn.toNat := by
    rintro ⟨o, t⟩ hentry
    obtain ⟨j, hj⟩ := List.mem_iff_getElem?.1 hentry
    have hoperation : m.operations[j]? = some o := by
      rw [← m.map_fst_treatments c region, List.getElem?_map, hj]
      rfl
    have hsite := site_at c region hoperation
    rw [treatmentAt_of_getElem? m c region hj] at hsite
    cases hsite with
    | construction hj hk hnew htry hkind hslot => simp [Tally.ofTreated, Operation.isReturn, hkind]
    | resultCall hj hk hcall hcallee hresult htry hpop =>
      simp [Tally.ofTreated, Operation.isReturn, hpop]
    | _ => rfl
  rw [tally, Tally.countP_ofBody (f := fun entry => entry.1.isReturn) rfl (fun _ _ => rfl) h]
  conv_rhs => rw [← m.map_fst_treatments c region, List.countP_map]
  rfl

end MethodDefinition

end BuildDrift
