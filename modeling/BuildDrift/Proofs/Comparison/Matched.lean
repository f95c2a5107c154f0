import BuildDrift.Proofs.Comparison.Unit
import Mathlib.Data.List.Nodup

/-!
# Builds that match

If names are distinct, an item of the older build is the counterpart of every item of its name. If
in this way every type of the newer build has a counterpart, and every method has one that is valid
when it is and has an identical body, then nothing has changed and nothing is without counterpart:
all that is listed are the methods that are malformed.

## Main definitions

* `CompiledUnit.Matches`: every item of the newer build has a counterpart that is the same.
* `UnitDiff.Uneventful`: results that list malformed methods only.

## Main results

* `TypeDefinition.exists_counterpart`: methods of the same name and signature are counterparts.
* `MethodDefinition.hasClass_changed_iff`: when a method has changed, given its counterpart.
* `CompiledUnit.Matches.uneventful`: if a build matches an older one, the results list malformed
  methods only.
-/

namespace BuildDrift

/-! ### Distinct names -/

/-- Elements of a list are at the same position if their images are equal, but distinct
throughout the list. -/
theorem position_eq_of_nodup_map {α β : Type*} {f : α → β} {l : List α} (h : (l.map f).Nodup)
    {i j : ℕ} {a b : α} (ha : l[i]? = some a) (hb : l[j]? = some b) (hab : f a = f b) : i = j := by
  have hi : i < (l.map f).length := by
    rw [List.length_map]
    exact (List.getElem?_eq_some_iff.1 ha).1
  refine (List.getElem?_inj hi h).1 ?_
  rw [List.getElem?_map, List.getElem?_map, ha, hb, Option.map_some, Option.map_some, hab]

namespace TypeDefinition

variable {old : TypeDefinition} {m c c' : MethodDefinition} {k k' : ℕ}

/-- If names and signatures are distinct, a method of the name and signature of another one is its
counterpart. -/
theorem exists_counterpart (h : (old.methods.map fun b => (b.name, b.signature)).Nodup)
    (hc : c ∈ old.methods) (hname : c.name = m.name) (hsignature : c.signature = m.signature) :
    ∃ k, old.Counterpart m k c := by
  obtain ⟨k, hk⟩ := List.mem_iff_getElem?.1 hc
  refine ⟨k, .signature ⟨hk, ⟨hname, hsignature⟩, ?_⟩⟩
  rintro j hj b hb ⟨hname', hsignature'⟩
  have hjk : j = k := position_eq_of_nodup_map h hb hk
    (Prod.ext (hname'.trans hname.symm) (hsignature'.trans hsignature.symm))
  exact absurd hjk (Nat.ne_of_lt hj)

/-- A method has at most one counterpart. -/
theorem Counterpart.eq (h : old.Counterpart m k c) (h' : old.Counterpart m k' c') : c = c' := by
  have hc := counterpart?_eq_some_iff.2 ⟨k, h⟩
  have hc' := counterpart?_eq_some_iff.2 ⟨k', h'⟩
  exact Option.some.inj (hc.symm.trans hc')

end TypeDefinition

/-! ### The class of a method with a given counterpart -/

namespace MethodDefinition

variable {exclusions : List Exclusion} {old : TypeDefinition} {m c : MethodDefinition} {k : ℕ}

theorem not_hasClass_unmatched (hc : old.Counterpart m k c) :
    ¬m.HasClass exclusions old .unmatched := by
  intro h
  cases h with
  | unmatched _ hnone =>
    have hsome := TypeDefinition.counterpart?_eq_some_iff.2 ⟨k, hc⟩
    rw [TypeDefinition.counterpart?_eq_none_iff.2 hnone] at hsome
    exact absurd hsome (by simp)

theorem hasClass_changed_iff (hc : old.Counterpart m k c) :
    m.HasClass exclusions old .changed ↔ ¬Exclusion.Excludes exclusions .method m.name ∧
      c.validate = .ok () ∧ m.validate = .ok () ∧
        Body.compare c.operations m.operations ≠ .identical := by
  constructor
  · intro h
    cases h with
    | changed hspared hc' hold hnew hbody =>
      cases hc.eq hc'
      exact ⟨hspared, hold, hnew, hbody⟩
  · rintro ⟨hspared, hold, hnew, hbody⟩
    exact .changed hspared hc hold hnew hbody

theorem hasClass_incomparable_iff (hc : old.Counterpart m k c) {cause : Malformation} :
    m.HasClass exclusions old (.incomparable cause) ↔
      ¬Exclusion.Excludes exclusions .method m.name ∧
        (c.validate = .error cause ∨ c.validate = .ok () ∧ m.validate = .error cause) := by
  constructor
  · intro h
    cases h with
    | incomparable hspared hc' hcause =>
      cases hc.eq hc'
      exact ⟨hspared, hcause⟩
  · rintro ⟨hspared, hcause⟩
    exact .incomparable hspared hc hcause

end MethodDefinition

/-! ### Matching builds -/

/-- Methods with the same malformation, if any, and with identical bodies. -/
structure MethodDefinition.Matches (old new : MethodDefinition) : Prop where
  validate : old.validate = new.validate
  identical : Body.compare old.operations new.operations = .identical

/-- Every type of the newer build has a counterpart, and every method has one that matches it. -/
def CompiledUnit.Matches (old new : CompiledUnit) : Prop :=
  ∀ t ∈ new.types, ∃ q s, old.Counterpart t q s ∧
    ∀ m ∈ t.methods, ∃ k c, s.Counterpart m k c ∧ c.Matches m

/-- Nothing has changed and nothing is without counterpart; malformed methods are all that is
listed, each of them once and in order. -/
structure UnitDiff.Uneventful (exclusions : List Exclusion) (new : CompiledUnit) (d : UnitDiff) :
    Prop where
  hasChanges : d.hasChanges = false
  changedTypes : d.changedTypes = []
  unmatched : d.unmatched = []
  /-- What cannot be compared are the malformed methods that are not left out. -/
  incomparable : ∀ x, x ∈ d.incomparable ↔ ∃ t m,
    new.HasMethod x.typePosition x.position t m ∧ Exclusion.Spares exclusions t m ∧
      m.validate = .error x.cause
  incomparable_ordered : d.incomparable.Pairwise fun x y => x.place < y.place

namespace MethodDefinition.Matches

variable {exclusions : List Exclusion} {old : TypeDefinition} {m c : MethodDefinition} {k : ℕ}

theorem not_hasClass_changed (h : c.Matches m) (hc : old.Counterpart m k c) :
    ¬m.HasClass exclusions old .changed := by
  rw [hasClass_changed_iff hc]
  rintro ⟨-, -, -, hbody⟩
  exact hbody h.identical

theorem hasClass_incomparable_iff (h : c.Matches m) (hc : old.Counterpart m k c)
    {cause : Malformation} : m.HasClass exclusions old (.incomparable cause) ↔
      ¬Exclusion.Excludes exclusions .method m.name ∧ m.validate = .error cause := by
  rw [MethodDefinition.hasClass_incomparable_iff hc, h.validate]
  -- the counterpart is asked first, and answers for the method
  refine and_congr_right fun _ => ⟨?_, .inl⟩
  rintro (hcause | ⟨hok, hcause⟩)
  · exact hcause
  · exact absurd (hok.symm.trans hcause) (by simp)

end MethodDefinition.Matches

namespace CompiledUnit.Matches

variable {exclusions : List Exclusion} {old new : CompiledUnit} {t : TypeDefinition}
  {m : MethodDefinition} {p k : ℕ}

theorem exists_counterpart (h : old.Matches new) (hm : new.HasMethod p k t m) :
    ∃ q s j c, old.Counterpart t q s ∧ s.Counterpart m j c ∧ c.Matches m := by
  obtain ⟨q, s, hs, hmethods⟩ := h t (List.mem_of_getElem? hm.1)
  obtain ⟨j, c, hc, hmatches⟩ := hmethods m (List.mem_of_getElem? hm.2)
  exact ⟨q, s, j, c, hs, hc, hmatches⟩

theorem not_hasClass_changed (h : old.Matches new) (hm : new.HasMethod p k t m) :
    ¬t.HasClass exclusions old m .changed := by
  obtain ⟨q, s, j, c, hs, hc, hmatches⟩ := h.exists_counterpart hm
  rw [TypeDefinition.hasClass_iff_spared hs (by simp)]
  rintro ⟨-, hclass⟩
  exact hmatches.not_hasClass_changed hc hclass

theorem not_hasClass_unmatched (h : old.Matches new) (hm : new.HasMethod p k t m) :
    ¬t.HasClass exclusions old m .unmatched := by
  obtain ⟨q, s, j, c, hs, hc, -⟩ := h.exists_counterpart hm
  rw [TypeDefinition.hasClass_iff_spared hs (by simp)]
  rintro ⟨-, hclass⟩
  exact MethodDefinition.not_hasClass_unmatched hc hclass

theorem hasClass_incomparable_iff (h : old.Matches new) (hm : new.HasMethod p k t m)
    {cause : Malformation} : t.HasClass exclusions old m (.incomparable cause) ↔
      Exclusion.Spares exclusions t m ∧ m.validate = .error cause := by
  obtain ⟨q, s, j, c, hs, hc, hmatches⟩ := h.exists_counterpart hm
  rw [TypeDefinition.hasClass_iff_spared hs (by simp), hmatches.hasClass_incomparable_iff hc,
    Exclusion.Spares, and_assoc]

theorem unmatched_eq_nil (h : old.Matches new) :
    (UnitDiff.between exclusions old new).unmatched = [] := by
  refine List.eq_nil_iff_forall_not_mem.2 ?_
  rintro (⟨p, t⟩ | ⟨p, k, m⟩) hmem
  · obtain ⟨ht, -, hnone⟩ := UnitDiff.type_mem_unmatched_iff.1 hmem
    obtain ⟨q, s, hs, -⟩ := h t (List.mem_of_getElem? ht)
    exact hnone s (List.mem_of_getElem? hs.1) hs.2.1
  · obtain ⟨t, hm, hclass⟩ := UnitDiff.method_mem_unmatched_iff.1 hmem
    exact h.not_hasClass_unmatched hm hclass

/-- If a build matches an older one, the results list malformed methods only. -/
theorem uneventful (h : old.Matches new) (exclusions : List Exclusion) :
    (UnitDiff.between exclusions old new).Uneventful exclusions new := by
  have hchanges : (UnitDiff.between exclusions old new).hasChanges = false := by
    rw [← Bool.not_eq_true, UnitDiff.hasChanges_iff]
    rintro ⟨p, k, t, m, hm, hclass⟩
    exact h.not_hasClass_changed hm hclass
  refine ⟨hchanges, ?_, h.unmatched_eq_nil, fun x => ?_, UnitDiff.pairwise_incomparable⟩
  · simpa [UnitDiff.hasChanges] using hchanges
  · rw [UnitDiff.mem_incomparable_iff]
    refine exists₂_congr fun t m => and_congr_right fun hm => ?_
    exact h.hasClass_incomparable_iff hm

end CompiledUnit.Matches

end BuildDrift
