import BuildDrift.Proofs.Comparison.Unit

/-!
# What ignore rules leave out

Ignore rules are read in two ways. A selection applies a pattern for members to the simple name of
a method and to its name qualified with the type. The exclusions of a comparison apply the same
pattern to the simple name alone. So a comparison leaves out only what the selection does not
select, and the two agree on a method unless its qualified name is picked and nothing else is.

## Main definitions

* `TypeDefinition.LeavesOut`: a comparison leaves a method of a type out.
* `UnitDiff.Passes`: results that do not list the method at a place.
* `IgnoreRules.PicksQualifiedOnly`: the rules pick the qualified name of a method, nothing else.

## Main results

* `IgnoreRules.ignoresMethod_iff`: members are ignored by simple or by qualified name.
* `UnitDiff.between_leavesOut`: what a comparison leaves out, and when this is what the selection
  does not select.
* `UnitDiff.between_qualifiedRule`: a method that is ignored and compared.
-/

namespace BuildDrift

/-! ### The two readings of rules -/

namespace IgnoreRules

variable {r : IgnoreRules} {name : String}

theorem picksSome_iff {patterns : List NamePattern} {names : List String} :
    picksSome patterns names = true ↔ ∃ n ∈ names, ∃ p ∈ patterns, p.picks n = true := by
  simp only [picksSome, List.any_eq_true]
  constructor
  · rintro ⟨p, hp, n, hn, hpicks⟩
    exact ⟨n, hn, p, hp, hpicks⟩
  · rintro ⟨n, hn, p, hp, hpicks⟩
    exact ⟨p, hp, n, hn, hpicks⟩

/-- The patterns for items of a kind. -/
def patterns (r : IgnoreRules) : ItemKind → List NamePattern
  | .type => r.types
  | .method => r.members

theorem excludes_exclusions_iff {kind : ItemKind} :
    Exclusion.Excludes r.exclusions kind name ↔ ∃ p ∈ r.patterns kind, p.picks name = true := by
  simp only [Exclusion.Excludes, exclusions, List.mem_append, List.mem_map]
  constructor
  · rintro ⟨e, ⟨p, hp, rfl⟩ | ⟨p, hp, rfl⟩, rfl, hpicks⟩
    · exact ⟨p, hp, hpicks⟩
    · exact ⟨p, hp, hpicks⟩
  · rintro ⟨p, hp, hpicks⟩
    cases kind with
    | type => exact ⟨⟨.type, p⟩, .inl ⟨p, hp, rfl⟩, rfl, hpicks⟩
    | method => exact ⟨⟨.method, p⟩, .inr ⟨p, hp, rfl⟩, rfl, hpicks⟩

theorem ignoresType_iff :
    r.ignoresType name = true ↔ Exclusion.Excludes r.exclusions .type name := by
  rw [excludes_exclusions_iff, ignoresType, picksSome_iff]
  simp only [List.mem_singleton, exists_eq_left, patterns]

/-- A method is ignored if it would be left out by its simple or by its qualified name. -/
theorem ignoresMethod_iff {typeName : String} : r.ignoresMethod typeName name = true ↔
    Exclusion.Excludes r.exclusions .method name ∨
      Exclusion.Excludes r.exclusions .method (qualified typeName name) := by
  rw [excludes_exclusions_iff, excludes_exclusions_iff, ignoresMethod, picksSome_iff]
  simp only [List.mem_cons, List.not_mem_nil, or_false, exists_eq_or_imp, exists_eq_left, patterns]

theorem hasMethod_selection_eq_false_iff {t : TypeDefinition} {m : MethodDefinition} :
    r.selection.hasMethod t m = false ↔ Exclusion.Excludes r.exclusions .type t.fullName ∨
      Exclusion.Excludes r.exclusions .method m.name ∨
      Exclusion.Excludes r.exclusions .method (qualified t.fullName m.name) := by
  rw [← ignoresMethod_iff, ← ignoresType_iff]
  simp only [selection]
  cases r.ignoresType t.fullName <;> simp

/-- The rules pick the qualified name of a method, but neither its simple name nor its type. -/
structure PicksQualifiedOnly (r : IgnoreRules) (t : TypeDefinition) (m : MethodDefinition) :
    Prop where
  type : ∀ p ∈ r.types, p.picks t.fullName = false
  simple : ∀ p ∈ r.members, p.picks m.name = false
  qualified : ∃ p ∈ r.members, p.picks (qualified t.fullName m.name) = true

theorem picksQualifiedOnly_iff {t : TypeDefinition} {m : MethodDefinition} :
    r.PicksQualifiedOnly t m ↔ ¬Exclusion.Excludes r.exclusions .type t.fullName ∧
      ¬Exclusion.Excludes r.exclusions .method m.name ∧
      Exclusion.Excludes r.exclusions .method (IgnoreRules.qualified t.fullName m.name) := by
  simp only [excludes_exclusions_iff, not_exists, not_and, Bool.not_eq_true]
  exact ⟨fun h => ⟨h.type, h.simple, h.qualified⟩, fun ⟨h, h', h''⟩ => ⟨h, h', h''⟩⟩

end IgnoreRules

/-! ### What a comparison leaves out -/

/-- A comparison leaves out a method of a type, for the sake of the type or of the method. -/
def TypeDefinition.LeavesOut (exclusions : List Exclusion) (old : CompiledUnit)
    (t : TypeDefinition) (m : MethodDefinition) : Prop :=
  t.HasClass exclusions old m .typeExcluded ∨ t.HasClass exclusions old m .excluded

/-- The method at a place is not listed, be it as changed, as without counterpart or as
malformed. -/
structure UnitDiff.Passes (d : UnitDiff) (p k : ℕ) : Prop where
  changed : ∀ c ∈ d.changedTypes, c.newPosition = p → ∀ x ∈ c.methods, x.position ≠ k
  unmatched : ∀ m, .method p k m ∉ d.unmatched
  incomparable : ∀ x ∈ d.incomparable, x.typePosition = p → x.position ≠ k

namespace TypeDefinition

variable {exclusions : List Exclusion} {old new : CompiledUnit} {t : TypeDefinition}
  {m : MethodDefinition} {p k : ℕ}

/-- A method of a type that has a counterpart is left out if its type or itself is, by name. -/
theorem leavesOut_iff (hs : ∃ s ∈ old.types, s.fullName = t.fullName) :
    t.LeavesOut exclusions old m ↔ Exclusion.Excludes exclusions .type t.fullName ∨
      Exclusion.Excludes exclusions .method m.name := by
  constructor
  · rintro (h | h)
    · cases h with
      | typeExcluded h => exact .inl h
      | ofMethod _ _ hm => cases hm
    · cases h with
      | ofMethod _ _ hm =>
        cases hm with
        | excluded h => exact .inr h
  · intro h
    by_cases htype : Exclusion.Excludes exclusions .type t.fullName
    · exact .inl (.typeExcluded htype)
    · obtain ⟨q, s, hs⟩ := CompiledUnit.exists_counterpart_iff.2 hs
      exact .inr (.ofMethod htype hs (.excluded (h.resolve_left htype)))

/-- What is left out is of no other class. -/
theorem LeavesOut.not_hasClass (h : t.LeavesOut exclusions old m) (hm : new.HasMethod p k t m)
    {f : MethodClass} (hf : f ≠ .typeExcluded) (hf' : f ≠ .excluded) {t' : TypeDefinition}
    {m' : MethodDefinition} (hm' : new.HasMethod p k t' m') : ¬t'.HasClass exclusions old m' f := by
  obtain ⟨rfl, rfl⟩ := hm.unique hm'
  intro hclass
  have hunique := t.existsUnique_hasClass exclusions old m
  rcases h with h | h
  · exact hf (hunique.unique hclass h)
  · exact hf' (hunique.unique hclass h)

/-- What is left out is not listed. -/
theorem LeavesOut.passes (h : t.LeavesOut exclusions old m) (hm : new.HasMethod p k t m) :
    (UnitDiff.between exclusions old new).Passes p k := by
  refine ⟨?_, ?_, ?_⟩
  · rintro c hc rfl ⟨_, m'⟩ hmem rfl
    obtain ⟨t', hm', hclass⟩ := UnitDiff.exists_changedType_iff.1 ⟨c, hc, rfl, hmem⟩
    exact h.not_hasClass hm (by simp) (by simp) hm' hclass
  · intro m' hmem
    obtain ⟨t', hm', hclass⟩ := UnitDiff.method_mem_unmatched_iff.1 hmem
    exact h.not_hasClass hm (by simp) (by simp) hm' hclass
  · rintro x hx rfl rfl
    obtain ⟨t', m', hm', hclass⟩ := UnitDiff.mem_incomparable_iff.1 hx
    exact h.not_hasClass hm (by simp) (by simp) hm' hclass

end TypeDefinition

namespace UnitDiff

/-- With the exclusions of ignore rules, a comparison leaves out the methods whose types or simple
names the rules pick, and does not list them. All of these are methods that the selection of the
rules does not select. The two agree on a method unless the rules pick its qualified name only. -/
theorem between_leavesOut (r : IgnoreRules) {old new : CompiledUnit} {p k : ℕ}
    {t : TypeDefinition} {m : MethodDefinition} (hm : new.HasMethod p k t m)
    (hs : ∃ s ∈ old.types, s.fullName = t.fullName) :
    (t.LeavesOut r.exclusions old m ↔ (∃ q ∈ r.types, q.picks t.fullName = true) ∨
      ∃ q ∈ r.members, q.picks m.name = true) ∧
    (t.LeavesOut r.exclusions old m → (between r.exclusions old new).Passes p k) ∧
    (t.LeavesOut r.exclusions old m → r.selection.hasMethod t m = false) ∧
    ((t.LeavesOut r.exclusions old m ↔ r.selection.hasMethod t m = false) ↔
      ¬r.PicksQualifiedOnly t m) := by
  rw [IgnoreRules.hasMethod_selection_eq_false_iff, IgnoreRules.picksQualifiedOnly_iff]
  refine ⟨?_, fun h => h.passes hm, ?_, ?_⟩
  · rw [TypeDefinition.leavesOut_iff hs, IgnoreRules.excludes_exclusions_iff,
      IgnoreRules.excludes_exclusions_iff]
    rfl
  · rw [TypeDefinition.leavesOut_iff hs]
    exact Or.imp_right .inl
  · rw [TypeDefinition.leavesOut_iff hs]
    tauto

/-- Rules with one pattern, for a member by its qualified name. -/
def qualifiedRule : IgnoreRules where
  members := [⟨"N.C::f", .exact, .exact "N.C::f", rfl⟩]

/-- A type with one method. -/
def single (body : Body) : TypeDefinition :=
  sampleType "C" [sampleMethod "f" body]

/-- A unit with one method. -/
def singleUnit (body : Body) : CompiledUnit where
  name := "u"
  types := [single body]

theorem between_leavesOut_single :
    (singleUnit []).HasMethod 0 0 (single []) (sampleMethod "f" []) ∧
    (∃ s ∈ (singleUnit []).types, s.fullName = (single []).fullName) ∧
    qualifiedRule.PicksQualifiedOnly (single []) (sampleMethod "f" []) ∧
    ¬((single []).LeavesOut qualifiedRule.exclusions (singleUnit []) (sampleMethod "f" []) ↔
      qualifiedRule.selection.hasMethod (single []) (sampleMethod "f" []) = false) := by
  have hm : (singleUnit []).HasMethod 0 0 (single []) (sampleMethod "f" []) := ⟨rfl, rfl⟩
  have hs : ∃ s ∈ (singleUnit []).types, s.fullName = (single []).fullName :=
    ⟨_, List.mem_singleton_self _, rfl⟩
  have hpicks : qualifiedRule.PicksQualifiedOnly (single []) (sampleMethod "f" []) :=
    ⟨by decide, by decide, by decide⟩
  obtain ⟨-, -, -, hagree⟩ := between_leavesOut qualifiedRule hm hs
  exact ⟨hm, hs, hpicks, fun h => hagree.1 h hpicks⟩

/-- A body that pops and returns. -/
def popping : Body :=
  [⟨0, .pop, .none⟩, ⟨1, .ret, .none⟩]

/-- A method that is ignored by its qualified name is compared all the same, and has changed. -/
theorem between_qualifiedRule :
    (singleUnit popping).HasMethod 0 0 (single popping) (sampleMethod "f" popping) ∧
    (∃ s ∈ (singleUnit [⟨0, .ret, .none⟩]).types, s.fullName = (single popping).fullName) ∧
    qualifiedRule.selection.hasMethod (single popping) (sampleMethod "f" popping) = false ∧
    (between qualifiedRule.exclusions (singleUnit [⟨0, .ret, .none⟩])
      (singleUnit popping)).changedTypes =
      [⟨0, 0, single popping, [⟨0, sampleMethod "f" popping⟩]⟩] := by
  refine ⟨⟨rfl, rfl⟩, ⟨_, List.mem_singleton_self _, rfl⟩, ?_, ?_⟩
  · decide
  · decide

end UnitDiff

end BuildDrift
