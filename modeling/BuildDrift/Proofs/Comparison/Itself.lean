import BuildDrift.Proofs.Comparison.Body
import BuildDrift.Proofs.Comparison.Unit

/-!
# Comparing a unit with itself

Types and methods are compared by name. When a unit is compared with itself, a type is therefore
compared with a later one of its full name, and a method with an earlier one of its name and
signature, if there is one. Only then can there be a difference.

## Main definitions

* `CompiledUnit.Superseded`: a later type takes the place of a type.
* `TypeDefinition.Superseded`: an earlier method takes the place of a method.

## Main results

* `UnitDiff.between_self`: what is reported comes from items that are superseded.
* `UnitDiff.hasChanges_between_twins`: a unit that differs from itself.
-/

namespace BuildDrift

/-! ### What takes the place of an item -/

/-- A later type of the same full name, with other methods, takes the place of the type at a
position. -/
def CompiledUnit.Superseded (u : CompiledUnit) (p : ℕ) : Prop :=
  ∃ t q s, u.types[p]? = some t ∧ p < q ∧ u.types[q]? = some s ∧ s.fullName = t.fullName ∧
    s.methods ≠ t.methods

/-- An earlier method of the same name and signature, with another body, takes the place of the
method at a position. -/
def TypeDefinition.Superseded (t : TypeDefinition) (k : ℕ) : Prop :=
  ∃ m j b, t.methods[k]? = some m ∧ j < k ∧ t.methods[j]? = some b ∧ b.name = m.name ∧
    b.signature = m.signature ∧ Body.compare b.operations m.operations ≠ .identical

/-- The counterpart of a type in its own unit has the same methods, or the type is superseded. -/
theorem CompiledUnit.Counterpart.methods_eq_or {u : CompiledUnit} {t s : TypeDefinition} {p q : ℕ}
    (hs : u.Counterpart t q s) (ht : u.types[p]? = some t) :
    s.methods = t.methods ∨ u.Superseded p := by
  by_cases hmethods : s.methods = t.methods
  · exact .inl hmethods
  · refine .inr ⟨t, q, s, ht, ?_, hs.1, hs.2.1, hmethods⟩
    rcases Nat.lt_trichotomy p q with hlt | rfl | hlt
    · exact hlt
    · rw [hs.1, Option.some.injEq] at ht
      exact absurd (congrArg _ ht) hmethods
    · exact absurd rfl (hs.2.2 p hlt t ht)

/-- The counterpart of a method in its own type has an identical body, or the method is
superseded. -/
theorem TypeDefinition.Counterpart.compare_eq_or {t : TypeDefinition} {m c : MethodDefinition}
    {j k : ℕ} (hc : t.Counterpart m j c) (hm : t.methods[k]? = some m) :
    Body.compare c.operations m.operations = .identical ∨ t.Superseded k := by
  cases hc with
  | signature h =>
    obtain ⟨hj, ⟨hname, hsignature⟩, hfirst⟩ := h
    by_cases hbody : Body.compare c.operations m.operations = .identical
    · exact .inl hbody
    · -- the method has its own name and signature, so the first such method is not behind it
      refine .inr ⟨m, j, c, hm, ?_, hj, hname, hsignature, hbody⟩
      rcases Nat.lt_trichotomy j k with hlt | rfl | hlt
      · exact hlt
      · rw [hj, Option.some.injEq] at hm
        exact absurd (hm ▸ Body.compare_self _) hbody
      · exact absurd ⟨rfl, rfl⟩ (hfirst k hlt m hm)
  | name hnone _ => exact absurd rfl (hnone m (List.mem_of_getElem? hm) rfl)

namespace UnitDiff

variable {exclusions : List Exclusion} {u : CompiledUnit}

theorem type_notMem_unmatched_self (p : ℕ) (t : TypeDefinition) :
    .type p t ∉ (between exclusions u u).unmatched := by
  rw [type_mem_unmatched_iff]
  rintro ⟨ht, -, hnone⟩
  exact hnone t (List.mem_of_getElem? ht) rfl

theorem superseded_of_method_mem_unmatched {p k : ℕ} {m : MethodDefinition}
    (h : .method p k m ∈ (between exclusions u u).unmatched) : u.Superseded p := by
  obtain ⟨t, ⟨ht, hm⟩, hclass⟩ := method_mem_unmatched_iff.1 h
  cases hclass with
  | @ofMethod _ s _ _ hs hm' =>
    refine (hs.methods_eq_or ht).resolve_left fun hmethods => ?_
    cases hm' with
    | unmatched _ hnone => exact hnone m (hmethods ▸ List.mem_of_getElem? hm) rfl

theorem superseded_of_changed {p k : ℕ} {t : TypeDefinition} {m : MethodDefinition}
    (hm : u.HasMethod p k t m) (hclass : t.HasClass exclusions u m .changed) :
    u.Superseded p ∨ t.Superseded k := by
  cases hclass with
  | @ofMethod _ s _ _ hs hm' =>
    refine (hs.methods_eq_or hm.1).symm.imp_right fun hmethods => ?_
    cases hm' with
    | changed _ hc _ _ hbody =>
      have hsuperseded := (hc.compare_eq_or (hmethods ▸ hm.2)).resolve_left hbody
      rwa [TypeDefinition.Superseded, hmethods] at hsuperseded

/-- A type is superseded by one with other methods only. -/
theorem not_superseded_of_methods_eq
    (h : ∀ s ∈ u.types, ∀ t ∈ u.types, s.fullName = t.fullName → s.methods = t.methods) (p : ℕ) :
    ¬u.Superseded p := by
  rintro ⟨t, q, s, ht, -, hs, hname, hmethods⟩
  exact hmethods (h s (List.mem_of_getElem? hs) t (List.mem_of_getElem? ht) hname)

/-- A method is superseded by one with another body only. -/
theorem not_superseded_of_identical {t : TypeDefinition}
    (h : ∀ b ∈ t.methods, ∀ m ∈ t.methods, b.name = m.name → b.signature = m.signature →
      Body.compare b.operations m.operations = .identical) (k : ℕ) : ¬t.Superseded k := by
  rintro ⟨m, j, b, hm, -, hb, hname, hsignature, hbody⟩
  exact hbody (h b (List.mem_of_getElem? hb) m (List.mem_of_getElem? hm) hname hsignature)

theorem unmatched_self_eq_nil (h : ∀ p, ¬u.Superseded p) :
    (between exclusions u u).unmatched = [] := by
  refine List.eq_nil_iff_forall_not_mem.2 ?_
  rintro (⟨p, t⟩ | ⟨p, k, m⟩) hmem
  · exact type_notMem_unmatched_self p t hmem
  · exact h p (superseded_of_method_mem_unmatched hmem)

theorem hasChanges_self_eq_false (h : ∀ p, ¬u.Superseded p)
    (h' : ∀ t ∈ u.types, ∀ k, ¬t.Superseded k) : (between exclusions u u).hasChanges = false := by
  rw [← Bool.not_eq_true, hasChanges_iff]
  rintro ⟨p, k, t, m, hm, hclass⟩
  rcases superseded_of_changed hm hclass with hp | hk
  · exact h p hp
  · exact h' t (List.mem_of_getElem? hm.1) k hk

theorem methodCount_eq_zero {d : UnitDiff} (h : d.hasChanges = false) : d.methodCount = 0 := by
  have hnil : d.changedTypes = [] := by simpa [hasChanges] using h
  rw [methodCount, hnil, List.flatMap_nil, List.length_nil]

/-- If a unit is compared with itself, every type has a counterpart, and only methods of types that
are superseded have none. Only methods that are superseded, or whose types are, have changed. If
types of the same full name have the same methods, then nothing is without counterpart; and if,
besides, methods of a type with the same name and signature have identical bodies, then nothing has
changed. -/
theorem between_self (exclusions : List Exclusion) (u : CompiledUnit) :
    (∀ p t, .type p t ∉ (between exclusions u u).unmatched) ∧
    (∀ p k m, .method p k m ∈ (between exclusions u u).unmatched → u.Superseded p) ∧
    (∀ c ∈ (between exclusions u u).changedTypes, ∀ x ∈ c.methods,
      u.Superseded c.newPosition ∨ c.type.Superseded x.position) ∧
    ((∀ s ∈ u.types, ∀ t ∈ u.types, s.fullName = t.fullName → s.methods = t.methods) →
      (between exclusions u u).unmatched = [] ∧
      ((∀ t ∈ u.types, ∀ b ∈ t.methods, ∀ m ∈ t.methods, b.name = m.name →
          b.signature = m.signature → Body.compare b.operations m.operations = .identical) →
        (between exclusions u u).hasChanges = false ∧
        (between exclusions u u).methodCount = 0)) := by
  refine ⟨type_notMem_unmatched_self, fun _ _ _ => superseded_of_method_mem_unmatched, ?_, ?_⟩
  · rintro c hc ⟨k, m⟩ hmem
    obtain ⟨p, t, ht, hc'⟩ := mem_changedTypes_iff.1 hc
    have hdescribes := TypeDefinition.describes_of_changedType? hc'
    obtain ⟨hm, hclass⟩ := (hdescribes.mem_methods_iff _).1 hmem
    rw [hdescribes.newPosition, hdescribes.type]
    exact superseded_of_changed ⟨ht, hm⟩ hclass
  · intro htypes
    have hnot := not_superseded_of_methods_eq htypes
    refine ⟨unmatched_self_eq_nil hnot, fun hbodies => ?_⟩
    have hchanges : (between exclusions u u).hasChanges = false :=
      hasChanges_self_eq_false hnot fun t ht => not_superseded_of_identical (hbodies t ht)
    exact ⟨hchanges, methodCount_eq_zero hchanges⟩

/-- A unit with a type and a method that occur twice. -/
def twofold : CompiledUnit where
  name := "u"
  types := [sampleType "C" [sampleMethod "f" [], sampleMethod "f" []],
    sampleType "C" [sampleMethod "f" [], sampleMethod "f" []]]

/-- A unit in which items occur twice does not differ from itself if they are the same. -/
theorem between_self_twofold :
    (∀ s ∈ twofold.types, ∀ t ∈ twofold.types, s.fullName = t.fullName → s.methods = t.methods) ∧
    (∀ t ∈ twofold.types, ∀ b ∈ t.methods, ∀ m ∈ t.methods, b.name = m.name →
      b.signature = m.signature → Body.compare b.operations m.operations = .identical) ∧
    (between [] twofold twofold).unmatched = [] ∧
    (between [] twofold twofold).hasChanges = false ∧
    (between [] twofold twofold).methodCount = 0 := by
  have htypes : ∀ s ∈ twofold.types, ∀ t ∈ twofold.types, s.fullName = t.fullName →
      s.methods = t.methods := by
    decide
  have hbodies : ∀ t ∈ twofold.types, ∀ b ∈ t.methods, ∀ m ∈ t.methods, b.name = m.name →
      b.signature = m.signature → Body.compare b.operations m.operations = .identical := by
    decide
  obtain ⟨hunmatched, hchanges⟩ := (between_self [] twofold).2.2.2 htypes
  exact ⟨htypes, hbodies, hunmatched, hchanges hbodies⟩

/-- A unit with two types of one full name. -/
def twins : CompiledUnit where
  name := "u"
  types := [sampleType "C" [sampleMethod "f" [⟨0, .ret, .none⟩], sampleMethod "g" []],
    sampleType "C" [sampleMethod "f" [⟨0, .pop, .none⟩, ⟨1, .ret, .none⟩]]]

/-- The first of the two types is compared with the second: a method has changed, and another one
has no counterpart. -/
theorem hasChanges_between_twins : (between [] twins twins).hasChanges = true ∧
    (between [] twins twins).methodCount = 1 ∧
    (between [] twins twins).unmatched = [.method 0 1 (sampleMethod "g" [])] := by
  decide

end UnitDiff

end BuildDrift
