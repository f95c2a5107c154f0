import BuildDrift.Proofs.Instrumentation.Growth
import BuildDrift.Proofs.Instrumentation.Insertion

/-!
# Ranges of an instrumented body

The region of an instrumented body consists of whole groups: an operation of a group is protected,
or part of the handler, exactly if the operation of the given body is. The start of the test is
not protected, and records always are. A record that a protected operation asks for belongs to the
group of the operation in front. That one is protected as well, because the object under test is
known only behind a protected store.

## Main definitions

* `MethodDefinition.RegionCarried`: what the region of an instrumented body contains.

## Main results

* `MethodDefinition.inTry_of_record`: operations that are followed by records are protected.
* `Instrumentation.onMethod_region`: the region of an instrumented body.
-/

namespace BuildDrift

namespace MethodDefinition

/-- What the region of a method with records injected contains, when groups begin at `start` and
operations reappear at `image`. -/
structure RegionCarried (m : MethodDefinition) (region : ExceptionRegion) (m' : MethodDefinition)
    (region' : ExceptionRegion) (start image : ℕ → ℕ) : Prop where
  /-- The handler is of the same kind. -/
  kind : region'.kind = region.kind
  /-- The handler catches the same exceptions. -/
  caught : region'.caught = region.caught
  /-- An image is protected if the operation is. -/
  image_inTry : ∀ j o o', m.operations[j]? = some o → m'.operations[image j]? = some o' →
    region'.inTry o'.offset = region.inTry o.offset
  /-- An image is part of the handler if the operation is. -/
  image_inHandler : ∀ j o o', m.operations[j]? = some o → m'.operations[image j]? = some o' →
    region'.inHandler o'.offset = region.inHandler o.offset
  /-- The group of a protected operation is protected as a whole. -/
  group_inTry : ∀ j o, m.operations[j]? = some o → region.inTry o.offset = true →
    ∀ p o', start j ≤ p → p < start (j + 1) → m'.operations[p]? = some o' →
      region'.inTry o'.offset = true
  /-- The start of the test is not protected. -/
  prologue_inTry : ∀ p < 2, ∀ o', m'.operations[p]? = some o' → region'.inTry o'.offset = false
  /-- Records are protected as a whole. -/
  record_inTry : ∀ j < m.operations.length, ∀ p o', image j < p → p < start (j + 1) →
    m'.operations[p]? = some o' → region'.inTry o'.offset = true

variable {m : MethodDefinition} (c : InstrumentConfig) (region : ExceptionRegion)

/-- A position of a group lies between two groups exactly if the group does. -/
theorem group_between_iff {j first last p : ℕ} (hj : j < m.operations.length)
    (hfirst : first ≤ m.operations.length) (hlast : last < m.operations.length)
    (hstart : m.groupStart c region j ≤ p) (hstop : p < m.groupStart c region (j + 1)) :
    m.groupStart c region first ≤ p ∧ p ≤ m.groupStart c region (last + 1) - 1 ↔
      first ≤ j ∧ j ≤ last := by
  have hmono {k l : ℕ} (hkl : k ≤ l) (hl : l ≤ m.operations.length) :
      m.groupStart c region k ≤ m.groupStart c region l := groupStart_le c region hkl hl
  constructor
  · rintro ⟨hp₁, hp₂⟩
    constructor
    · by_contra hlt
      have := hmono (k := j + 1) (l := first) (by omega) hfirst
      omega
    · by_contra hlt
      have := hmono (k := last + 1) (l := j) (by omega) (Nat.le_of_lt hj)
      have := groupStart_lt_succ c region hlast
      omega
  · rintro ⟨hle₁, hle₂⟩
    have := hmono hle₁ (Nat.le_of_lt hj)
    have := hmono (k := j + 1) (l := last + 1) (by omega) hlast
    omega

section Moved

variable {region}
variable (h : m.Injectable region)
  (hexact : ((m.instrumented c region).operations.map Operation.size).sum < UInt32.size)
include h hexact

/-- The operations of a group are protected, and part of the handler, if the given operation is. -/
theorem Injectable.inTry_group {j p : ℕ} {o o' : Operation} (hj : m.operations[j]? = some o)
    (hstart : m.groupStart c region j ≤ p) (hstop : p < m.groupStart c region (j + 1))
    (hp : (m.instrumented c region).operations[p]? = some o') :
    (m.movedRegion c region).inTry o'.offset = region.inTry o.offset ∧
      (m.movedRegion c region).inHandler o'.offset = region.inHandler o.offset := by
  obtain ⟨a, b, a', b', hspans⟩ := h.exists_spans
  have hlt {k : ℕ} {bound : Offset} (hk : m.operations.HasOffset k bound) :
      k < m.operations.length := by
    obtain ⟨q, hq, -⟩ := hk
    exact (List.getElem?_eq_some_iff.1 hq).1
  have hmoved := hspans.moved c h.valid.ordered
  have hordered := ordered_instrumented hexact
  have hlength := (List.getElem?_eq_some_iff.1 hj).1
  refine ⟨Bool.eq_iff_iff.2 ?_, Bool.eq_iff_iff.2 ?_⟩
  · rw [hmoved.inTry_iff hordered hp, hspans.inTry_iff h.valid.ordered hj]
    exact group_between_iff c region hlength (Nat.le_of_lt (hlt hspans.tryFirst))
      (hlt hspans.tryLast) hstart hstop
  · rw [hmoved.inHandler_iff hordered hp, hspans.inHandler_iff h.valid.ordered hj]
    exact group_between_iff c region hlength (Nat.le_of_lt (hlt hspans.handlerFirst))
      (hlt hspans.handlerLast) hstart hstop

/-- An image is protected, and part of the handler, if the operation is. -/
theorem Injectable.inTry_image {j : ℕ} {o o' : Operation} (hj : m.operations[j]? = some o)
    (himage : (m.instrumented c region).operations[m.imageAt c region j]? = some o') :
    (m.movedRegion c region).inTry o'.offset = region.inTry o.offset ∧
      (m.movedRegion c region).inHandler o'.offset = region.inHandler o.offset := by
  have hmem := (h.insertion c region).image_mem j (List.getElem?_eq_some_iff.1 hj).1
  exact h.inTry_group c hexact hj hmem.1 hmem.2 himage

/-- The start of the test is not protected. -/
theorem Injectable.inTry_prologue {p : ℕ} {o' : Operation} (hp : p < 2)
    (hget : (m.instrumented c region).operations[p]? = some o') :
    (m.movedRegion c region).inTry o'.offset = false := by
  obtain ⟨a, b, a', b', hspans⟩ := h.exists_spans
  obtain ⟨q, hq, -⟩ := hspans.tryFirst
  have ha : a ≤ m.operations.length := Nat.le_of_lt (List.getElem?_eq_some_iff.1 hq).1
  have hle := groupStart_le c region (Nat.zero_le a) ha
  rw [groupStart_zero] at hle
  rw [Bool.eq_false_iff, ne_eq,
    (hspans.moved c h.valid.ordered).inTry_iff (ordered_instrumented hexact) hget]
  omega

end Moved

/-- Between protected operations, every operation is protected. -/
private theorem inTry_between (hm : m.operations.Ordered) {i j k : ℕ} {o p q : Operation}
    (hi : m.operations[i]? = some o) (hj : m.operations[j]? = some p)
    (hk : m.operations[k]? = some q) (hij : i ≤ j) (hjk : j ≤ k)
    (ho : region.inTry o.offset = true) (hq : region.inTry q.offset = true) :
    region.inTry p.offset = true := by
  rw [ExceptionRegion.inTry, Bool.and_eq_true, decide_eq_true_iff, decide_eq_true_iff] at ho hq ⊢
  exact ⟨UInt32.le_trans ho.1 ((hm.offset_le_iff hi hj).2 hij),
    UInt32.le_trans ((hm.offset_le_iff hj hk).2 hjk) hq.2⟩

/-- An operation that is followed by a record is protected. -/
theorem inTry_of_record (hm : m.operations.Ordered) {j : ℕ} {o : Operation}
    (hj : m.operations[j]? = some o) (hrecord : m.tailAt c region j ≠ []) :
    region.inTry o.offset = true := by
  rw [tailAt_eq c region hj] at hrecord
  by_cases htrail : (m.treatmentAt c region j).trail c = []
  · rw [htrail, List.nil_append] at hrecord
    have hnext : j + 1 < m.operations.length := by
      by_contra hle
      rw [treatmentAt_of_length_le m c region (Nat.not_lt.1 hle)] at hrecord
      exact hrecord rfl
    have hget : m.operations[j + 1]? = some m.operations[j + 1] := List.getElem?_eq_getElem hnext
    have hsite := site_at c region hget
    generalize ht : m.treatmentAt c region (j + 1) = t at hsite hrecord
    cases hsite with
    | plainCall hk hget' hcall hcallee htry hstore hpop hsubject =>
      -- the object under test is known from a protected store further in front
      obtain ⟨k, hk, hconstruction, -⟩ := hsubject
      obtain ⟨p, hgetk⟩ : ∃ p, m.operations[k]? = some p :=
        ⟨_, List.getElem?_eq_getElem (by omega)⟩
      have hsitek := site_at c region hgetk
      rw [hconstruction] at hsitek
      cases hsitek with
      | construction hk' hget'' hnew htryk =>
        exact inTry_between region hm hgetk hj hget (by omega) (Nat.le_succ j) htryk htry
    | _ => exact absurd rfl hrecord
  · have hsite := site_at c region hj
    generalize m.treatmentAt c region j = t at hsite htrail
    cases hsite with
    | construction hk hget hnew htry => exact htry
    | resultCall hk hget hcall hcallee hresult htry => exact htry
    | _ => exact absurd rfl htrail

/-- The region of an instrumented body consists of whole groups. -/
theorem Injectable.regionCarried {region : ExceptionRegion} (h : m.Injectable region)
    (hexact : ((m.instrumented c region).operations.map Operation.size).sum < UInt32.size) :
    m.RegionCarried region (m.instrumented c region) (m.movedRegion c region)
      (m.groupStart c region) (m.imageAt c region) where
  kind := rfl
  caught := rfl
  image_inTry j o o' hj hget := (h.inTry_image c hexact hj hget).1
  image_inHandler j o o' hj hget := (h.inTry_image c hexact hj hget).2
  group_inTry j o hj htry p o' hstart hstop hget := by
    rw [(h.inTry_group c hexact hj hstart hstop hget).1, htry]
  prologue_inTry p hp o' hget := h.inTry_prologue c hexact hp hget
  record_inTry j hj p o' himage hstop hget := by
    have hgetj : m.operations[j]? = some m.operations[j] := List.getElem?_eq_getElem hj
    have hrecord : m.tailAt c region j ≠ [] := by
      intro hnil
      rw [groupStart_succ c region (treatments_getElem c region hgetj), hnil,
        List.length_nil] at hstop
      omega
    have hstart : m.groupStart c region j ≤ m.imageAt c region j := Nat.le_add_right _ _
    rw [(h.inTry_group c hexact hgetj (by omega) hstop hget).1]
    exact inTry_of_record c region h.valid.ordered hgetj hrecord

end MethodDefinition

namespace Instrumentation

/-- The region of an instrumented body that is laid out exactly. -/
theorem onMethod_region {i : Instrumentation} {m m' : MethodDefinition} {tally : Tally}
    {logs : List LogRecord} (h : i.onMethod m = .ok ⟨m', .injected tally, logs⟩)
    (hexact : (m'.operations.map Operation.size).sum < UInt32.size) :
    ∃ region region' site start image, m.regions = [region] ∧ m'.regions = [region'] ∧
      m.Insertion i.config region m' tally site start image ∧
      m.RegionCarried region m' region' start image := by
  obtain ⟨region, hm, rfl, rfl⟩ := i.injectable_of_onMethod h
  exact ⟨region, _, _, _, _, hm.regions, rfl, hm.insertion i.config region,
    hm.regionCarried i.config hexact⟩

/-- The example is laid out exactly, and its region is carried to the groups. -/
theorem onMethod_sample_region : ∃ m' tally logs,
    ({} : Instrumentation).onMethod (.sample 6) = .ok ⟨m', .injected tally, logs⟩ ∧
      (m'.operations.map Operation.size).sum < UInt32.size ∧
      ∃ region region' site start image, (MethodDefinition.sample 6).regions = [region] ∧
        m'.regions = [region'] ∧
        (MethodDefinition.sample 6).Insertion {} region m' tally site start image ∧
        (MethodDefinition.sample 6).RegionCarried region m' region' start image := by
  obtain ⟨logs, h⟩ :=
    ({} : Instrumentation).onMethod_eq_injected MethodDefinition.injectable_sample
  exact ⟨_, _, logs, h, MethodDefinition.exact_sample,
    onMethod_region h MethodDefinition.exact_sample⟩

end Instrumentation

end BuildDrift
