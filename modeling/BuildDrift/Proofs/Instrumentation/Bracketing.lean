import BuildDrift.Proofs.Execution.Flow
import BuildDrift.Proofs.Instrumentation.Behaviour
import Mathlib.Tactic.IntervalCases

/-!
# Instrumented tests are bracketed

Jumps and handlers go to groups, and a group begins with the operation that is to be executed
first. So control enters what stands within a group, behind its first operation, only from the
operation in front of it, and the start of the test, which is part of no group, only once. A path
through an instrumented body starts the test before anything else; it ends the test directly in
front of a return, and nowhere else; and it goes through records from their beginnings.

## Main definitions

* `Instruction.Injected`: what injected instructions are.
* `MethodDefinition.Bracketed`: how the start of the test, the end of the test and the records are
  placed on a path.

## Main results

* `MethodDefinition.Injectable.flow_cases`: control goes to the operation behind or to a group.
* `MethodDefinition.path_of_run`: the runs of an instrumented body go along paths.
* `Instrumentation.onMethod_bracketed`: the paths of an instrumented body are bracketed.
-/

namespace BuildDrift

open Instruction

/-! ### Injected instructions -/

/-- What is injected: calls of the entry points, and what prepares their arguments. -/
inductive Instruction.Injected (api : RecordingApi) : Instruction → Prop
  /-- A load of a local variable. -/
  | loadLocal (slot : UInt16) : Injected api (loadLocal slot)
  /-- A load of a string. -/
  | loadString (s : String) : Injected api (loadString s)
  /-- A result is boxed. -/
  | box (t : TypeRef) : Injected api (.box, .type t)
  /-- A call of an entry point. -/
  | call {callee : MethodRef} (h : callee ∈ api.entryPoints) : Injected api (call callee)

namespace Instruction.Injected

variable {api : RecordingApi} {i : Instruction}

theorem ne_target (h : Injected api i) (t : Offset) : i.2 ≠ .target t := by
  cases h <;> exact Operand.noConfusion

theorem ne_ret (h : Injected api i) : i.1 ≠ .ret := by
  cases h <;> exact OpKind.noConfusion

/-- When the entry points only log, injected instructions do not raise exceptions. -/
theorem perform_ne_raise {V H X : Type*} {n : ℕ} {M : Machine V H X n} (hM : M.LogsApi api)
    (h : Injected api i) (slots : ℕ) (f : Frame V H) (x : X) (g : Frame V H) :
    M.perform slots i f ≠ .raise x g := by
  cases h with
  | loadLocal slot =>
    simp only [BuildDrift.Instruction.loadLocal, Machine.perform]
    split_ifs <;> simp
  | loadString s => simp [BuildDrift.Instruction.loadString, Machine.perform]
  | box t =>
    simp only [Machine.perform]
    cases f.stack <;> simp
  | @call callee hcallee =>
    have harity : ∃ k, M.arity? callee = some k := by
      simp only [RecordingApi.entryPoints, List.mem_cons, List.not_mem_nil, or_false] at hcallee
      rcases hcallee with rfl | rfl | rfl | rfl
      · exact ⟨_, hM.startTest⟩
      · exact ⟨_, hM.endTest⟩
      · exact ⟨_, hM.recordCall⟩
      · exact ⟨_, hM.recordResult⟩
    obtain ⟨k, hk⟩ := harity
    simp only [BuildDrift.Instruction.call, Machine.perform, hk]
    split_ifs <;> simp

end Instruction.Injected

namespace Treatment

variable (c : InstrumentConfig)

theorem injected_callRecord (subject : UInt16) (callee : String) :
    ∀ i ∈ callRecord c subject callee, Injected c.api i := by
  simp only [callRecord, List.forall_mem_cons]
  exact ⟨.loadLocal _, .loadString _, .call (by simp [RecordingApi.entryPoints]), by simp⟩

theorem injected_resultRecord (subject temporary : UInt16) (callee : MethodRef)
    (result : TypeRef) : ∀ i ∈ resultRecord c subject temporary callee result,
      Injected c.api i := by
  have hbox : ∀ i ∈ if result.isValueType then [((.box, .type result) : Instruction)] else [],
      Injected c.api i := by
    split_ifs
    · simpa using .box result
    · simp
  simp only [resultRecord, List.forall_mem_append, List.forall_mem_cons]
  exact ⟨⟨⟨.loadLocal _, .loadLocal _, by simp⟩, hbox⟩, .loadString _,
    .call (by simp [RecordingApi.entryPoints]), by simp⟩

theorem injected_lead (t : Treatment) : ∀ i ∈ t.lead c, Injected c.api i := by
  cases t with
  | plainCall subject callee => exact injected_callRecord c subject callee.name
  | _ => simp [lead]

theorem injected_trail (t : Treatment) : ∀ i ∈ t.trail c, Injected c.api i := by
  cases t with
  | construction subject => exact injected_callRecord c subject _
  | resultCall subject temporary callee result =>
    exact injected_resultRecord c subject temporary callee result
  | _ => simp [trail]

/-- A target of an image is the moved target of the operation. -/
theorem target_of_image {f : Offset → Offset} {o : Operation} {t : Treatment} {s' : Offset}
    (h : (t.image f o).2 = .target s') : ∃ s, o.operand = .target s ∧ f s = s' := by
  have hkept (h : o.operand.retarget f = .target s') : ∃ s, o.operand = .target s ∧ f s = s' := by
    cases hoperand : o.operand with
    | target s =>
      rw [hoperand] at h
      exact ⟨s, rfl, Operand.target.inj h⟩
    | _ =>
      rw [hoperand] at h
      exact Operand.noConfusion h
  cases t with
  | resultCall => exact Operand.noConfusion h
  | _ => exact hkept h

end Treatment

namespace MethodDefinition

variable {m : MethodDefinition} (c : InstrumentConfig) (region : ExceptionRegion)

/-- Everything in an instrumented body but the images is injected. -/
theorem injected_of_forall_ne {p : ℕ} {i : Instruction}
    (hp : (m.code c region)[p]? = some i)
    (hne : ∀ j < m.operations.length, p ≠ m.imageAt c region j) : Injected c.api i := by
  have hlt : p < m.groupStart c region m.operations.length :=
    groupStart_length c region ▸ (List.getElem?_eq_some_iff.1 hp).1
  rcases exists_group c region (Nat.le_refl _) hlt with hprologue | ⟨j, hj, hstart, hstop⟩
  · have hmem : i ∈ (m.code c region).take (m.groupStart c region 0) :=
      List.mem_of_getElem? ((List.getElem?_take_of_lt (by simpa using hprologue)).trans hp)
    rw [take_code_zero] at hmem
    simp only [List.mem_cons, List.not_mem_nil, or_false] at hmem
    rcases hmem with rfl | rfl
    · exact .loadString _
    · exact .call (by simp [RecordingApi.entryPoints])
  · have hget : m.operations[j]? = some m.operations[j] := List.getElem?_eq_getElem hj
    have ht := treatments_getElem c region hget
    rcases Nat.lt_or_gt_of_ne (hne j hj) with hfront | hbehind
    · have hhead : i ∈ m.headAt c region j := by
        have h := congrArg (fun code => code[p - m.groupStart c region j]?) (drop_code c region ht)
        simp only [List.getElem?_drop, Nat.add_sub_cancel' hstart, hp] at h
        rw [imageAt] at hfront
        rw [List.getElem?_append_left (by omega)] at h
        exact List.mem_of_getElem? h.symm
      rw [headAt_eq c region hget] at hhead
      split_ifs at hhead
      · rw [List.mem_singleton] at hhead
        exact hhead ▸ .call (by simp [RecordingApi.entryPoints])
      · exact absurd hhead List.not_mem_nil
    · have htail : i ∈ m.tailAt c region j := by
        have h := congrArg (fun code => code[p - (m.imageAt c region j + 1)]?)
          (drop_code_imageAt c region ht)
        simp only [List.getElem?_drop, Nat.add_sub_cancel' hbehind, hp] at h
        rw [groupStart_succ c region ht] at hstop
        rw [List.getElem?_append_left (by omega)] at h
        exact List.mem_of_getElem? h.symm
      rw [tailAt_eq c region hget] at htail
      rcases List.mem_append.1 htail with h | h
      · exact Treatment.injected_trail c _ i h
      · exact Treatment.injected_lead c _ i h

/-! ### Where control goes -/

/-- The images of the operations of a method, when they reappear at `image`. -/
def Images (m : MethodDefinition) (image : ℕ → ℕ) (p : ℕ) : Prop :=
  ∃ j < m.operations.length, p = image j

theorem code_of_instrumented {p : ℕ} {o : Operation}
    (hp : (m.instrumented c region).operations[p]? = some o) :
    (m.code c region)[p]? = some o.instruction := by
  rw [getElem?_instrumented, Option.map_eq_some_iff] at hp
  obtain ⟨i, hi, rfl⟩ := hp
  exact hi

/-- Behind its first operation, a group is no beginning of a group. -/
theorem ne_groupStart {j k q : ℕ} (hj : j < m.operations.length) (hk : k ≤ m.operations.length)
    (hstart : m.groupStart c region j < q) (hstop : q < m.groupStart c region (j + 1)) :
    q ≠ m.groupStart c region k := by
  rintro rfl
  rcases Nat.lt_or_ge j k with hlt | hle
  · exact absurd (groupStart_le c region hlt hk) (Nat.not_le.2 hstop)
  · exact absurd (groupStart_le c region hle (Nat.le_of_lt hj)) (Nat.not_le.2 hstart)

/-- The image of an operation stands in the group of that operation only. -/
theorem eq_of_imageAt_mem {j k : ℕ} (hj : j < m.operations.length) (hk : k < m.operations.length)
    (hstart : m.groupStart c region j ≤ m.imageAt c region k)
    (hstop : m.imageAt c region k < m.groupStart c region (j + 1)) : j = k := by
  have hget : m.operations[k]? = some m.operations[k] := List.getElem?_eq_getElem hk
  have hsucc := groupStart_succ c region (treatments_getElem c region hget)
  have hle : m.groupStart c region k ≤ m.imageAt c region k := Nat.le_add_right _ _
  rcases Nat.lt_trichotomy j k with hlt | rfl | hlt
  · have hnext : m.groupStart c region (j + 1) ≤ m.groupStart c region k :=
      groupStart_le c region hlt (Nat.le_of_lt hk)
    omega
  · rfl
  · have hnext : m.groupStart c region (k + 1) ≤ m.groupStart c region j :=
      groupStart_le c region hlt (Nat.le_of_lt hj)
    omega

/-- From an injected operation, control goes to the operation behind. -/
theorem flow_of_injected {p q : ℕ} (hp : ¬ m.Images (m.imageAt c region) p)
    (h : (m.instrumented c region).Flow (m.Images (m.imageAt c region)) p q) : q = p + 1 := by
  cases h with
  | next ho hkind => rfl
  | @jump o t _ ho ht hq =>
    have hinjected := injected_of_forall_ne c region (code_of_instrumented c region ho)
      fun j hj hpj => hp ⟨j, hj, hpj⟩
    exact absurd ht (hinjected.ne_target t)
  | handler ho hraises hr htry hq => exact absurd hraises hp

section Exact

variable {region} (h : m.Injectable region)
  (hexact : ((m.instrumented c region).operations.map Operation.size).sum < UInt32.size)
  (hclosed : m.Closed)
include h hexact hclosed

/-- Control goes to the operation behind or to the beginning of a group. -/
theorem Injectable.flow_cases {p q : ℕ}
    (hflow : (m.instrumented c region).Flow (m.Images (m.imageAt c region)) p q) :
    q = p + 1 ∨ ∃ k ≤ m.operations.length, q = m.groupStart c region k := by
  by_cases hp : m.Images (m.imageAt c region) p
  · obtain ⟨j, hj, rfl⟩ := hp
    have hget : m.operations[j]? = some m.operations[j] := List.getElem?_eq_getElem hj
    cases hflow with
    | next ho hkind => exact .inl rfl
    | @jump o' t' _ ho ht hq =>
      obtain ⟨offset, himage⟩ := getElem?_imageAt c region hget
      rw [ho, Option.some.injEq] at himage
      obtain ⟨t, hoperand, rfl⟩ := Treatment.target_of_image (himage ▸ ht)
      obtain ⟨k, hk, hk'⟩ := h.landing?_relocate c hexact
        (hclosed _ (List.mem_of_getElem? hget) t hoperand)
      rw [hk', Option.some.injEq] at hq
      exact .inr ⟨k, le_of_landing? hk, hq.symm⟩
    | @handler o' r _ ho hraises hr htry hq =>
      have hregions : (m.instrumented c region).regions = [m.movedRegion c region] := rfl
      rw [hregions, List.mem_singleton] at hr
      obtain ⟨k, hk, hk'⟩ := h.landing?_handler c hexact
      rw [hr, hk', Option.some.injEq] at hq
      exact .inr ⟨k, le_of_landing? hk, hq.symm⟩
  · exact .inl (flow_of_injected c region hp hflow)

end Exact

/-! ### Paths -/

/-- How a path through a method with records injected goes, when groups begin at `start` and
operations reappear at `image`. The start of the test is called at position 1, and the end of the
test where the group of a return begins. -/
structure Bracketed (m m' : MethodDefinition) (start image : ℕ → ℕ) (path : List ℕ) : Prop where
  /-- The start of the test is executed second, and never again. -/
  startTest : ∀ k : ℕ, path[k]? = some 1 ↔ k = 1 ∧ k < path.length
  /-- What prepares it is executed first, and never again. -/
  first : ∀ k : ℕ, path[k]? = some 0 ↔ k = 0
  /-- Operations of the given body are executed later. -/
  image_later : ∀ k p : ℕ, path[k]? = some p → m.Images image p → 1 < k
  /-- A return is that of the given body, and the end of the test is executed directly before. -/
  return_entered : ∀ k p : ℕ, path[k]? = some p → m'.ReturnsAt p →
    ∃ j l, m.ReturnsAt j ∧ p = image j ∧ k = l + 1 ∧ path[l]? = some (start j)
  /-- After the end of the test, the return is executed. -/
  endTest_left : ∀ j k q : ℕ, m.ReturnsAt j → path[k]? = some (start j) →
    path[k + 1]? = some q → q = image j
  /-- A path that ends at the first return it comes to executes the end of the test once, directly
  before that return. -/
  endTest_once : ∀ p, path.getLast? = some p → m'.ReturnsAt p →
    (∀ k q : ℕ, path[k]? = some q → m'.ReturnsAt q → k + 1 = path.length) →
    ∀ k : ℕ, (∃ j, m.ReturnsAt j ∧ path[k]? = some (start j)) ↔ k + 2 = path.length
  /-- What trails behind an operation is executed from its beginning, behind the operation. -/
  record_entered : ∀ j < m.operations.length, ∀ k q : ℕ, path[k]? = some q → image j < q →
    q < start (j + 1) → ∃ l, k = l + 1 ∧ path[l]? = some (q - 1)

theorem two_le_groupStart {j : ℕ} (hj : j ≤ m.operations.length) :
    2 ≤ m.groupStart c region j :=
  groupStart_zero (m := m) c region ▸ groupStart_le c region (Nat.zero_le j) hj

theorem not_images_of_lt {p : ℕ} (hp : p < 2) : ¬ m.Images (m.imageAt c region) p := by
  rintro ⟨j, hj, rfl⟩
  have htwo := two_le_groupStart c region (Nat.le_of_lt hj)
  rw [imageAt] at hp
  omega

/-- In front of the image of a return, within its group, there is the end of the test. -/
theorem imageAt_of_returnsAt {j : ℕ} (hj : m.ReturnsAt j) :
    m.imageAt c region j = m.groupStart c region j + 1 := by
  obtain ⟨o, ho, hkind⟩ := hj
  rw [imageAt, headAt_eq c region ho, if_pos hkind]
  rfl

theorem not_images_of_returnsAt {j : ℕ} (hj : m.ReturnsAt j) :
    ¬ m.Images (m.imageAt c region) (m.groupStart c region j) := by
  rintro ⟨k, hk, heq⟩
  have hlt : j < m.operations.length := (List.getElem?_eq_some_iff.1 hj.choose_spec.1).1
  have himage := imageAt_of_returnsAt c region hj
  have hjk := eq_of_imageAt_mem c region hlt hk (Nat.le_of_eq heq)
    (heq ▸ groupStart_lt_succ c region hlt)
  rw [← hjk] at heq
  omega

/-- The returns of an instrumented body are the images of returns. -/
theorem returnsAt_instrumented_iff {p : ℕ} : (m.instrumented c region).ReturnsAt p ↔
    ∃ j, m.ReturnsAt j ∧ p = m.imageAt c region j := by
  constructor
  · rintro ⟨o', ho', hkind'⟩
    by_cases himages : m.Images (m.imageAt c region) p
    · obtain ⟨j, hj, rfl⟩ := himages
      have hget : m.operations[j]? = some m.operations[j] := List.getElem?_eq_getElem hj
      obtain ⟨offset, himage⟩ := getElem?_imageAt c region hget
      rw [ho', Option.some.injEq] at himage
      rw [himage] at hkind'
      refine ⟨j, ⟨_, hget, ?_⟩, rfl⟩
      generalize m.treatmentAt c region j = t at hkind'
      cases t with
      | resultCall => exact OpKind.noConfusion hkind'
      | _ => exact hkind'
    · have hinjected := injected_of_forall_ne c region (code_of_instrumented c region ho')
        fun j hj hpj => himages ⟨j, hj, hpj⟩
      exact absurd hkind' hinjected.ne_ret
  · rintro ⟨j, ⟨o, ho, hkind⟩, rfl⟩
    obtain ⟨offset, himage⟩ := getElem?_imageAt c region ho
    refine ⟨_, himage, ?_⟩
    have hsite := site_at c region ho
    generalize m.treatmentAt c region j = t at hsite
    cases hsite with
    | resultCall hj hk hcall hcallee hresult htry hpop =>
      exact absurd (hkind.symm.trans hpop) (by simp)
    | _ => exact hkind

section Path

variable {region} (h : m.Injectable region)
  (hexact : ((m.instrumented c region).operations.map Operation.size).sum < UInt32.size)
  (hclosed : m.Closed) {path : List ℕ}
  (hpath : (m.instrumented c region).Path (m.Images (m.imageAt c region)) path)
include h hexact hclosed hpath

/-- A position at which no group begins is reached from the position in front of it. -/
theorem Injectable.previous_of_ne_groupStart {k q : ℕ} (hk : path[k]? = some q) (hq : q ≠ 0)
    (hne : ∀ i ≤ m.operations.length, q ≠ m.groupStart c region i) :
    ∃ l, k = l + 1 ∧ path[l]? = some (q - 1) := by
  obtain ⟨l, p, rfl, hl, hflow⟩ := hpath.previous hk hq
  rcases h.flow_cases c hexact hclosed hflow with rfl | ⟨i, hi, hqi⟩
  · exact ⟨l, rfl, hl⟩
  · exact absurd hqi (hne i hi)

/-- The first operation is executed once. -/
theorem Injectable.first_on_path (k : ℕ) : path[k]? = some 0 ↔ k = 0 := by
  refine ⟨fun hk => ?_, fun hk => hk ▸ hpath.start⟩
  cases k with
  | zero => rfl
  | succ l =>
    have hl : l < path.length := Nat.lt_of_succ_lt (List.getElem?_eq_some_iff.1 hk).1
    have hflow := hpath.flow l _ 0 (List.getElem?_eq_getElem hl) hk
    rcases h.flow_cases c hexact hclosed hflow with hsucc | ⟨i, hi, hstart⟩
    · exact absurd hsucc (Nat.succ_ne_zero _).symm
    · have htwo := two_le_groupStart c region hi
      omega

/-- The start of the test is executed once. -/
theorem Injectable.startTest_on_path (k : ℕ) :
    path[k]? = some 1 ↔ k = 1 ∧ k < path.length := by
  constructor
  · intro hk
    obtain ⟨l, rfl, hl⟩ := h.previous_of_ne_groupStart c hexact hclosed hpath hk Nat.one_ne_zero
      fun i hi heq => by
        have htwo := two_le_groupStart c region hi
        omega
    exact ⟨congrArg (· + 1) ((h.first_on_path c hexact hclosed hpath l).1 hl),
      (List.getElem?_eq_some_iff.1 hk).1⟩
  · rintro ⟨rfl, hlt⟩
    have hget : path[1]? = some path[1] := List.getElem?_eq_getElem hlt
    have hflow := hpath.flow 0 0 _ hpath.start hget
    rw [hget, flow_of_injected c region (not_images_of_lt c region (by omega)) hflow]

/-- Operations of the given body are executed behind the start of the test. -/
theorem Injectable.image_on_path {k p : ℕ} (hk : path[k]? = some p)
    (hp : m.Images (m.imageAt c region) p) : 1 < k := by
  by_contra hle
  have hlow : p = 0 ∨ p = 1 := by
    rcases Nat.le_one_iff_eq_zero_or_eq_one.1 (Nat.not_lt.1 hle) with rfl | rfl
    · rw [(h.first_on_path c hexact hclosed hpath 0).2 rfl, Option.some.injEq] at hk
      exact .inl hk.symm
    · have hlt := (List.getElem?_eq_some_iff.1 hk).1
      rw [(h.startTest_on_path c hexact hclosed hpath 1).2 ⟨rfl, hlt⟩, Option.some.injEq] at hk
      exact .inr hk.symm
  exact not_images_of_lt c region (by omega) hp

/-- Within a group, an operation is executed behind the one in front of it. -/
theorem Injectable.within_group {j k q : ℕ} (hj : j < m.operations.length)
    (hk : path[k]? = some q) (hstart : m.groupStart c region j < q)
    (hstop : q < m.groupStart c region (j + 1)) : ∃ l, k = l + 1 ∧ path[l]? = some (q - 1) :=
  h.previous_of_ne_groupStart c hexact hclosed hpath hk (by omega)
    fun _ hi => ne_groupStart c region hj hi hstart hstop

/-- A return is executed behind the end of the test. -/
theorem Injectable.return_on_path {k p : ℕ} (hk : path[k]? = some p)
    (hp : (m.instrumented c region).ReturnsAt p) : ∃ j l, m.ReturnsAt j ∧
      p = m.imageAt c region j ∧ k = l + 1 ∧ path[l]? = some (m.groupStart c region j) := by
  obtain ⟨j, hj, rfl⟩ := (returnsAt_instrumented_iff c region).1 hp
  have hlt : j < m.operations.length := (List.getElem?_eq_some_iff.1 hj.choose_spec.1).1
  have himage := imageAt_of_returnsAt c region hj
  have hmem := (h.insertion c region).image_mem j hlt
  obtain ⟨l, rfl, hl⟩ := h.within_group c hexact hclosed hpath hlt hk (by omega) hmem.2
  rw [himage, Nat.add_sub_cancel] at hl
  exact ⟨j, l, hj, rfl, rfl, hl⟩

omit h hexact hclosed in
/-- Behind the end of the test, the return is executed. -/
theorem endTest_on_path {j k q : ℕ} (hj : m.ReturnsAt j)
    (hk : path[k]? = some (m.groupStart c region j)) (hq : path[k + 1]? = some q) :
    q = m.imageAt c region j := by
  have hflow := hpath.flow k _ q hk hq
  rw [flow_of_injected c region (not_images_of_returnsAt c region hj) hflow,
    imageAt_of_returnsAt c region hj]

/-- Up to the first return, the end of the test is executed once, directly before that return. -/
theorem Injectable.endTest_once {p : ℕ} (hlast : path.getLast? = some p)
    (hp : (m.instrumented c region).ReturnsAt p)
    (honly : ∀ k q : ℕ, path[k]? = some q → (m.instrumented c region).ReturnsAt q →
      k + 1 = path.length) (k : ℕ) :
    (∃ j, m.ReturnsAt j ∧ path[k]? = some (m.groupStart c region j)) ↔ k + 2 = path.length := by
  rw [List.getLast?_eq_getElem?] at hlast
  have hlength := (List.getElem?_eq_some_iff.1 hlast).1
  constructor
  · rintro ⟨j, hj, hk⟩
    have hlt := (List.getElem?_eq_some_iff.1 hk).1
    -- the end of the test is no return, so the path goes on behind it
    have hnext : k + 1 < path.length := by
      by_contra hle
      rw [show k = path.length - 1 by omega, hlast, Option.some.injEq] at hk
      obtain ⟨i, hi, himage⟩ := (returnsAt_instrumented_iff c region).1 hp
      exact not_images_of_returnsAt c region hj
        ⟨i, (List.getElem?_eq_some_iff.1 hi.choose_spec.1).1, hk ▸ himage⟩
    have hget : path[k + 1]? = some path[k + 1] := List.getElem?_eq_getElem hnext
    have himage := endTest_on_path c hpath hj hk hget
    exact honly (k + 1) _ hget ((returnsAt_instrumented_iff c region).2 ⟨j, hj, himage⟩)
  · intro hk
    obtain ⟨j, l, hj, -, hl, hget⟩ := h.return_on_path c hexact hclosed hpath hlast hp
    exact ⟨j, hj, by rwa [show k = l by omega]⟩

/-- The paths of an instrumented body are bracketed. -/
theorem Injectable.bracketed :
    m.Bracketed (m.instrumented c region) (m.groupStart c region) (m.imageAt c region) path where
  first := h.first_on_path c hexact hclosed hpath
  startTest := h.startTest_on_path c hexact hclosed hpath
  image_later _ _ := h.image_on_path c hexact hclosed hpath
  return_entered _ _ := h.return_on_path c hexact hclosed hpath
  endTest_left _ _ _ := endTest_on_path c hpath
  endTest_once _ := h.endTest_once c hexact hclosed hpath
  record_entered j hj k q hk hstart := by
    have hmem := (h.insertion c region).image_mem j hj
    exact h.within_group c hexact hclosed hpath hj hk (by omega)

end Path

/-- The runs of an instrumented body go along paths, if the entry points only log. -/
theorem path_of_run {V H X : Type*} {n : ℕ} {M : Machine V H X n}
    (hM : M.LogsApi c.api) {f : Frame V H} {position : ℕ → ℕ} {steps : ℕ}
    (hrun : ∀ k ≤ steps, ∃ g,
      M.run (m.instrumented c region) k (.running 0 f) = .running (position k) g) :
    (m.instrumented c region).Path (m.Images (m.imageAt c region))
      ((List.range (steps + 1)).map position) := by
  refine Machine.path_of_run (fun p o f x g ho hraise => ?_) hrun
  by_contra himages
  have hinjected := injected_of_forall_ne c region (code_of_instrumented c region ho)
    fun j hj hpj => himages ⟨j, hj, hpj⟩
  exact hinjected.perform_ne_raise hM _ f x g hraise

end MethodDefinition

namespace Instrumentation

/-- The paths of an instrumented body that is laid out exactly are bracketed, if every target of
the given body is an operation or its end. Exceptions are raised by images of operations only. -/
theorem onMethod_bracketed {i : Instrumentation} {m m' : MethodDefinition} {tally : Tally}
    {logs : List LogRecord} (h : i.onMethod m = .ok ⟨m', .injected tally, logs⟩)
    (hexact : (m'.operations.map Operation.size).sum < UInt32.size) (hclosed : m.Closed) :
    ∃ region site start image, m.regions = [region] ∧
      m.Insertion i.config region m' tally site start image ∧
      ∀ path, m'.Path (m.Images image) path → m.Bracketed m' start image path := by
  obtain ⟨region, hm, rfl, rfl⟩ := i.injectable_of_onMethod h
  exact ⟨region, _, _, _, hm.regions, hm.insertion i.config region,
    fun path hpath => hm.bracketed i.config hexact hclosed hpath⟩

/-- The path of the example that falls through to its return is bracketed. -/
theorem onMethod_sample_bracketed : ∃ m' tally logs q,
    ({} : Instrumentation).onMethod (.sample 6) = .ok ⟨m', .injected tally, logs⟩ ∧
      (m'.operations.map Operation.size).sum < UInt32.size ∧
      (MethodDefinition.sample 6).Closed ∧ m'.ReturnsAt q ∧
      (∀ raises, m'.Path raises (List.range (q + 1))) ∧
      ∃ start image, (MethodDefinition.sample 6).Bracketed m' start image
        (List.range (q + 1)) := by
  obtain ⟨logs, h⟩ :=
    ({} : Instrumentation).onMethod_eq_injected MethodDefinition.injectable_sample
  have hclosed : (MethodDefinition.sample 6).Closed := MethodDefinition.scoped_sample.targets
  have hlast : (MethodDefinition.sample 6).ReturnsAt 10 := ⟨_, rfl, rfl⟩
  have honly : ∀ j, (MethodDefinition.sample 6).ReturnsAt j → j = 10 := by
    rintro j ⟨o, ho, hkind⟩
    have hj : j < 11 := (List.getElem?_eq_some_iff.1 ho).1
    interval_cases j <;> cases ho <;> first | rfl | exact absurd hkind (by decide)
  have hreturn := (MethodDefinition.returnsAt_instrumented_iff {}
    (MethodDefinition.sampleRegion 6)).2 ⟨10, hlast, rfl⟩
  have hpath : ∀ raises, (MethodDefinition.instrumented _ _ _).Path raises _ := fun raises =>
    MethodDefinition.path_range (List.getElem?_eq_some_iff.1 hreturn.choose_spec.1).1
      fun p hp hpreturn => by
        obtain ⟨j, hj, rfl⟩ := (MethodDefinition.returnsAt_instrumented_iff {} _).1 hpreturn
        rw [honly j hj] at hp
        exact Nat.lt_irrefl _ hp
  obtain ⟨region, site, start, image, -, -, hbracketed⟩ :=
    onMethod_bracketed h MethodDefinition.exact_sample hclosed
  exact ⟨_, _, logs, _, h, MethodDefinition.exact_sample, hclosed, hreturn, hpath,
    start, image, hbracketed _ (hpath _)⟩

end Instrumentation

end BuildDrift
