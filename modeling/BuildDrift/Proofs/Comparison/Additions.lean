import BuildDrift.Proofs.Comparison.Body
import BuildDrift.Proofs.Comparison.Matched

/-!
# Additions and removals

One build is a part of another if types and methods have been deleted from the larger one. Seen
from the larger build, everything in the part has its counterpart, so nothing has changed. Seen
from the part, a type of the larger build has no counterpart if it has been added, and a method
that has been added to a type has none either, unless the type kept another method of its name. In
that case it is compared with the first such method.

## Main definitions

* `Kept`, `CompiledUnit.keep`: what is kept of a unit, and the part that is left.
* `CompiledUnit.Adds`: the methods that have been added to types of the part.
* `UnitDiff.Additive`: what is reported of additions.

## Main results

* `CompiledUnit.matches_keep`: a part matches the whole.
* `TypeDefinition.counterpart_keep_iff`: with what an added method is compared.
* `UnitDiff.between_keep`: what is reported of removals and of additions.
* `UnitDiff.hasChanges_between_overloads`: an added method that counts as a change.
-/

namespace BuildDrift

/-! ### Parts of units -/

/-- What is kept of a unit, by position: types, and methods of the type at a position. -/
structure Kept where
  type : ℕ → Bool
  method : ℕ → ℕ → Bool

/-- The elements of a list at the positions that are kept. -/
def keepAt {α : Type*} (keeps : ℕ → Bool) (l : List α) : List α :=
  (l.zipIdx.filter fun x => keeps x.2).map Prod.fst

/-- A type with the methods that are kept. -/
def TypeDefinition.keep (t : TypeDefinition) (keeps : ℕ → Bool) : TypeDefinition :=
  { t with methods := keepAt keeps t.methods }

/-- The part of a unit that is kept. -/
def CompiledUnit.keep (u : CompiledUnit) (K : Kept) : CompiledUnit :=
  { u with types := (u.types.zipIdx.filter fun x => K.type x.2).map fun x =>
      x.1.keep (K.method x.2) }

theorem mem_keepAt_iff {α : Type*} {keeps : ℕ → Bool} {l : List α} {a : α} :
    a ∈ keepAt keeps l ↔ ∃ k, l[k]? = some a ∧ keeps k = true := by
  simp only [keepAt, List.mem_map, List.mem_filter, Prod.exists, List.mem_zipIdx_iff_getElem?]
  constructor
  · rintro ⟨b, k, hk, rfl⟩
    exact ⟨k, hk⟩
  · rintro ⟨k, hk⟩
    exact ⟨a, k, hk, rfl⟩

theorem TypeDefinition.mem_methods_keep_iff {t : TypeDefinition} {keeps : ℕ → Bool}
    {m : MethodDefinition} :
    m ∈ (t.keep keeps).methods ↔ ∃ k, t.methods[k]? = some m ∧ keeps k = true :=
  mem_keepAt_iff

theorem TypeDefinition.mem_of_mem_keep {t : TypeDefinition} {keeps : ℕ → Bool}
    {m : MethodDefinition} (h : m ∈ (t.keep keeps).methods) : m ∈ t.methods := by
  obtain ⟨k, hk, -⟩ := mem_methods_keep_iff.1 h
  exact List.mem_of_getElem? hk

namespace CompiledUnit

variable {u : CompiledUnit} {K : Kept} {p q k : ℕ} {t s : TypeDefinition}

theorem mem_types_keep_iff : s ∈ (u.keep K).types ↔
    ∃ p t, u.types[p]? = some t ∧ K.type p = true ∧ s = t.keep (K.method p) := by
  simp only [keep, List.mem_map, List.mem_filter, Prod.exists, List.mem_zipIdx_iff_getElem?]
  constructor
  · rintro ⟨t, p, ⟨ht, hkept⟩, rfl⟩
    exact ⟨p, t, ht, hkept, rfl⟩
  · rintro ⟨p, t, ht, hkept, rfl⟩
    exact ⟨t, p, ⟨ht, hkept⟩, rfl⟩

theorem nodup_fullName_keep (h : (u.types.map TypeDefinition.fullName).Nodup) :
    ((u.keep K).types.map TypeDefinition.fullName).Nodup := by
  have hnames : (u.keep K).types.map TypeDefinition.fullName =
      (u.types.zipIdx.filter fun x => K.type x.2).map fun x => x.1.fullName := by
    rw [keep, List.map_map]
    rfl
  have hall : u.types.map TypeDefinition.fullName = u.types.zipIdx.map fun x => x.1.fullName := by
    conv_lhs => rw [← List.zipIdx_map_fst 0 u.types, List.map_map]
    rfl
  rw [hnames]
  rw [hall] at h
  exact h.sublist (List.filter_sublist.map _)

variable (h : (u.types.map TypeDefinition.fullName).Nodup)
include h

/-- What is left of a type that is kept is its counterpart. -/
theorem exists_counterpart_keep (ht : u.types[p]? = some t) (hkept : K.type p = true) :
    ∃ q, (u.keep K).Counterpart t q (t.keep (K.method p)) := by
  obtain ⟨q, hq⟩ := List.mem_iff_getElem?.1 (mem_types_keep_iff.2 ⟨p, t, ht, hkept, rfl⟩)
  exact ⟨q, (counterpart_iff_of_nodup (nodup_fullName_keep h)).2 ⟨hq, rfl⟩⟩

/-- The counterpart of a type is what is left of it. -/
theorem Counterpart.eq_keep (hs : (u.keep K).Counterpart t q s) (ht : u.types[p]? = some t) :
    K.type p = true ∧ s = t.keep (K.method p) := by
  obtain ⟨p', t', ht', hkept, rfl⟩ := mem_types_keep_iff.1 (List.mem_of_getElem? hs.1)
  have hname : t'.fullName = t.fullName := hs.2.1
  obtain rfl : p' = p := position_eq_of_nodup_map h ht' ht hname
  rw [ht, Option.some.injEq] at ht'
  subst ht'
  exact ⟨hkept, rfl⟩

/-- A type has been added if the part has none of its name. -/
theorem forall_ne_iff_not_kept (ht : u.types[p]? = some t) :
    (∀ s ∈ (u.keep K).types, s.fullName ≠ t.fullName) ↔ K.type p = false := by
  rw [← Bool.not_eq_true]
  constructor
  · intro hnone hkept
    exact hnone _ (mem_types_keep_iff.2 ⟨p, t, ht, hkept, rfl⟩) rfl
  · intro hkept s hs hname
    obtain ⟨q, hq⟩ := List.mem_iff_getElem?.1 hs
    exact hkept (Counterpart.eq_keep h
      ((counterpart_iff_of_nodup (nodup_fullName_keep h)).2 ⟨hq, hname⟩) ht).1

end CompiledUnit

/-! ### Counterparts in a part -/

namespace TypeDefinition

variable {t : TypeDefinition} {keeps : ℕ → Bool} {m c : MethodDefinition} {j k : ℕ}
  (h : (t.methods.map MethodDefinition.signature).Nodup)
include h

theorem nodup_name_signature : (t.methods.map fun b => (b.name, b.signature)).Nodup := by
  refine List.Nodup.of_map Prod.snd ?_
  rwa [List.map_map]

/-- A method that is kept is its own counterpart. -/
theorem exists_counterpart_keep (hm : t.methods[k]? = some m) (hkept : keeps k = true) :
    ∃ j, (t.keep keeps).Counterpart m j m := by
  have hmem : m ∈ (t.keep keeps).methods := mem_methods_keep_iff.2 ⟨k, hm, hkept⟩
  refine exists_counterpart ?_ hmem rfl rfl
  refine List.Nodup.sublist ?_ (nodup_name_signature h)
  conv_rhs => rw [← List.zipIdx_map_fst 0 t.methods]
  exact (List.filter_sublist.map _).map _

/-- A method that has been added is compared with the first method of its name that is kept. -/
theorem counterpart_keep_iff (hm : t.methods[k]? = some m) (hadded : keeps k = false) :
    (t.keep keeps).Counterpart m j c ↔
      FirstAt (t.keep keeps).methods (fun b => b.name = m.name) j c := by
  -- no other method has the signature of `m`, so it is the name that decides
  have hnone : ∀ b ∈ (t.keep keeps).methods, b.name = m.name → b.signature ≠ m.signature := by
    intro b hb _ hsignature
    obtain ⟨i, hi, hkept⟩ := mem_methods_keep_iff.1 hb
    obtain rfl : i = k := position_eq_of_nodup_map h hi hm hsignature
    exact absurd (hkept.symm.trans hadded) (by simp)
  constructor
  · intro hc
    cases hc with
    | signature hfirst =>
      exact absurd hfirst.2.1.2 (hnone c (List.mem_of_getElem? hfirst.1) hfirst.2.1.1)
    | name _ hfirst => exact hfirst
  · exact .name hnone

end TypeDefinition

/-! ### Removals -/

theorem CompiledUnit.matches_keep {u : CompiledUnit}
    (htypes : (u.types.map TypeDefinition.fullName).Nodup)
    (hmethods : ∀ t ∈ u.types, (t.methods.map MethodDefinition.signature).Nodup) (K : Kept) :
    u.Matches (u.keep K) := by
  intro s hs
  obtain ⟨p, t, ht, -, rfl⟩ := mem_types_keep_iff.1 hs
  refine ⟨p, t, (counterpart_iff_of_nodup htypes).2 ⟨ht, rfl⟩, fun m hm => ?_⟩
  have hnodup := TypeDefinition.nodup_name_signature (hmethods t (List.mem_of_getElem? ht))
  obtain ⟨k, hk⟩ := TypeDefinition.exists_counterpart hnodup
    (TypeDefinition.mem_of_mem_keep hm) rfl rfl
  exact ⟨k, m, hk, rfl, Body.compare_self _⟩

/-! ### Additions -/

/-- A method has been added to a type of the part. -/
def CompiledUnit.Adds (u : CompiledUnit) (K : Kept) (p k : ℕ) (t : TypeDefinition)
    (m : MethodDefinition) : Prop :=
  u.HasMethod p k t m ∧ K.type p = true ∧ K.method p k = false

/-- What is reported when a part of a build is compared with the whole. What has been added is
listed without counterpart, except for methods of a name that has been kept. These are listed as
changed, unless the first method of the name has an identical body. -/
structure UnitDiff.Additive (exclusions : List Exclusion) (u : CompiledUnit) (K : Kept)
    (d : UnitDiff) : Prop where
  unmatched_type : ∀ p t, .type p t ∈ d.unmatched ↔
    u.types[p]? = some t ∧ K.type p = false ∧ ¬Exclusion.Excludes exclusions .type t.fullName
  unmatched_method : ∀ p k m, .method p k m ∈ d.unmatched ↔ ∃ t, u.Adds K p k t m ∧
    Exclusion.Spares exclusions t m ∧ ∀ c ∈ (t.keep (K.method p)).methods, c.name ≠ m.name
  changed : ∀ p k m, (∃ x ∈ d.changedTypes, x.newPosition = p ∧ ⟨k, m⟩ ∈ x.methods) ↔
    ∃ t j c, u.Adds K p k t m ∧ Exclusion.Spares exclusions t m ∧
      FirstAt (t.keep (K.method p)).methods (fun b => b.name = m.name) j c ∧
      c.validate = .ok () ∧ m.validate = .ok () ∧
        Body.compare c.operations m.operations ≠ .identical
  hasChanges : (∀ p k t m, u.Adds K p k t m → ∀ c ∈ (t.keep (K.method p)).methods,
    c.name ≠ m.name) → d.hasChanges = false

namespace CompiledUnit

variable {exclusions : List Exclusion} {u : CompiledUnit} {K : Kept} {p k : ℕ}
  {t : TypeDefinition} {m : MethodDefinition}
  (htypes : (u.types.map TypeDefinition.fullName).Nodup)
include htypes

theorem hasClass_keep_iff (hm : u.HasMethod p k t m) {f : MethodClass}
    (hf : f ≠ .typeExcluded) (hf' : f ≠ .typeUnmatched) :
    t.HasClass exclusions (u.keep K) m f ↔ K.type p = true ∧
      ¬Exclusion.Excludes exclusions .type t.fullName ∧
        m.HasClass exclusions (t.keep (K.method p)) f := by
  constructor
  · intro hclass
    cases hclass with
    | typeExcluded _ => exact absurd rfl hf
    | typeUnmatched _ _ => exact absurd rfl hf'
    | ofMethod hspared hs hclass =>
      obtain ⟨hkept, rfl⟩ := hs.eq_keep htypes hm.1
      exact ⟨hkept, hspared, hclass⟩
  · rintro ⟨hkept, hspared, hclass⟩
    obtain ⟨q, hq⟩ := exists_counterpart_keep htypes hm.1 hkept
    exact .ofMethod hspared hq hclass

/-- Methods that have no counterpart have been added, and no method of their name is kept. -/
theorem hasClass_unmatched_keep_iff (hm : u.HasMethod p k t m) :
    t.HasClass exclusions (u.keep K) m .unmatched ↔ u.Adds K p k t m ∧
      Exclusion.Spares exclusions t m ∧ ∀ c ∈ (t.keep (K.method p)).methods, c.name ≠ m.name := by
  rw [hasClass_keep_iff htypes hm (by simp) (by simp)]
  constructor
  · rintro ⟨htype, hspared, hclass⟩
    cases hclass with
    | unmatched hspared' hnone =>
      refine ⟨⟨hm, htype, ?_⟩, ⟨hspared, hspared'⟩, hnone⟩
      -- a method that is kept bears its own name
      rw [← Bool.not_eq_true]
      intro hkept
      exact hnone m (TypeDefinition.mem_methods_keep_iff.2 ⟨k, hm.2, hkept⟩) rfl
  · rintro ⟨⟨-, htype, -⟩, ⟨hspared, hspared'⟩, hnone⟩
    exact ⟨htype, hspared, .unmatched hspared' hnone⟩

/-- Methods that have changed have been added, and are compared with a method of their name. -/
theorem hasClass_changed_keep_iff
    (hmethods : ∀ t ∈ u.types, (t.methods.map MethodDefinition.signature).Nodup)
    (hm : u.HasMethod p k t m) :
    t.HasClass exclusions (u.keep K) m .changed ↔ ∃ j c, u.Adds K p k t m ∧
      Exclusion.Spares exclusions t m ∧
      FirstAt (t.keep (K.method p)).methods (fun b => b.name = m.name) j c ∧
      c.validate = .ok () ∧ m.validate = .ok () ∧
        Body.compare c.operations m.operations ≠ .identical := by
  have hnodup := hmethods t (List.mem_of_getElem? hm.1)
  rw [hasClass_keep_iff htypes hm (by simp) (by simp)]
  constructor
  · rintro ⟨htype, hspared, hclass⟩
    cases hclass with
    | changed hspared' hc hold hnew hbody =>
      -- a method that is kept is its own counterpart, and has not changed
      have hadded : K.method p k = false := by
        rw [← Bool.not_eq_true]
        intro hkept
        obtain ⟨j, hj⟩ := TypeDefinition.exists_counterpart_keep hnodup hm.2 hkept
        rw [hc.eq hj] at hbody
        exact hbody (Body.compare_self _)
      exact ⟨_, _, ⟨hm, htype, hadded⟩, ⟨hspared, hspared'⟩,
        (TypeDefinition.counterpart_keep_iff hnodup hm.2 hadded).1 hc, hold, hnew, hbody⟩
  · rintro ⟨j, c, ⟨-, htype, hadded⟩, ⟨hspared, hspared'⟩, hfirst, hold, hnew, hbody⟩
    have hc := (TypeDefinition.counterpart_keep_iff hnodup hm.2 hadded).2 hfirst
    exact ⟨htype, hspared, .changed hspared' hc hold hnew hbody⟩

end CompiledUnit

namespace UnitDiff

/-- If a build is compared with a part of it, nothing has changed and nothing is without
counterpart. If the part is compared with the whole, the added types are listed without
counterpart, and so are the added methods unless a method of their name has been kept. -/
theorem between_keep (exclusions : List Exclusion) {u : CompiledUnit}
    (htypes : (u.types.map TypeDefinition.fullName).Nodup)
    (hmethods : ∀ t ∈ u.types, (t.methods.map MethodDefinition.signature).Nodup) (K : Kept) :
    (between exclusions u (u.keep K)).Uneventful exclusions (u.keep K) ∧
      (between exclusions (u.keep K) u).Additive exclusions u K := by
  refine ⟨(CompiledUnit.matches_keep htypes hmethods K).uneventful exclusions, ?_⟩
  refine ⟨fun p t => ?_, fun p k m => ?_, fun p k m => ?_, fun hnone => ?_⟩
  · rw [type_mem_unmatched_iff]
    refine and_congr_right fun ht => ?_
    rw [CompiledUnit.forall_ne_iff_not_kept htypes ht, and_comm]
  · rw [method_mem_unmatched_iff]
    refine exists_congr fun t => ⟨?_, ?_⟩
    · rintro ⟨hm, hclass⟩
      exact (CompiledUnit.hasClass_unmatched_keep_iff htypes hm).1 hclass
    · intro h
      exact ⟨h.1.1, (CompiledUnit.hasClass_unmatched_keep_iff htypes h.1.1).2 h⟩
  · rw [exists_changedType_iff]
    refine exists_congr fun t => ⟨?_, ?_⟩
    · rintro ⟨hm, hclass⟩
      exact (CompiledUnit.hasClass_changed_keep_iff htypes hmethods hm).1 hclass
    · rintro ⟨j, c, h⟩
      exact ⟨h.1.1, (CompiledUnit.hasClass_changed_keep_iff htypes hmethods h.1.1).2 ⟨j, c, h⟩⟩
  · rw [← Bool.not_eq_true, hasChanges_iff]
    rintro ⟨p, k, t, m, hm, hclass⟩
    obtain ⟨j, c, hadds, -, hfirst, -⟩ :=
      (CompiledUnit.hasClass_changed_keep_iff htypes hmethods hm).1 hclass
    exact hnone p k t m hadds c (List.mem_of_getElem? hfirst.1) hfirst.2.1

/-- A unit with a type of two overloads, whose bodies differ, and another method. -/
def overloads : CompiledUnit where
  name := "u"
  types := [sampleType "C" [sampleMethod "f" [⟨0, .ret, .none⟩],
    { sampleMethod "f" [⟨0, .pop, .none⟩, ⟨1, .ret, .none⟩] with parameters := [.int32] },
    sampleMethod "g" []], sampleType "D" []]

/-- The first type and its first method. -/
def firstOnly : Kept where
  type p := p = 0
  method _ k := k = 0

theorem between_keep_overloads : (overloads.types.map TypeDefinition.fullName).Nodup ∧
    (∀ t ∈ overloads.types, (t.methods.map MethodDefinition.signature).Nodup) ∧
    (between [] overloads (overloads.keep firstOnly)).Uneventful [] (overloads.keep firstOnly) ∧
    (between [] (overloads.keep firstOnly) overloads).Additive [] overloads firstOnly := by
  have htypes : (overloads.types.map TypeDefinition.fullName).Nodup := by decide
  have hmethods : ∀ t ∈ overloads.types, (t.methods.map MethodDefinition.signature).Nodup := by
    decide
  exact ⟨htypes, hmethods, between_keep [] htypes hmethods firstOnly⟩

/-- An overload that has been added is compared with the other one, and counts as a change. -/
theorem hasChanges_between_overloads : (overloads.types.map TypeDefinition.fullName).Nodup ∧
    (∀ t ∈ overloads.types, (t.methods.map MethodDefinition.signature).Nodup) ∧
    (between [] (overloads.keep firstOnly) overloads).hasChanges = true ∧
    (between [] (overloads.keep firstOnly) overloads).unmatched =
      [.method 0 2 (sampleMethod "g" []), .type 1 (sampleType "D" [])] := by
  decide

end UnitDiff

end BuildDrift
