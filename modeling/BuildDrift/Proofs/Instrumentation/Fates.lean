import BuildDrift.Proofs.Instrumentation.Outcome
import Mathlib.Data.List.Forall2

/-!
# What becomes of the methods of a unit

A unit is instrumented method by method. A method that breaks the rules of bodies is passed as
malformed, whether the selection has it or not; else one that the selection does not have is passed
for that reason; else its regions decide. Labels cannot be at fault: groups are opened once, since
offsets are distinct and so are the texts by which they are written, and every goal is marked.

## Main definitions

* `Instrumentation.Rejects`, `Instrumentation.Admits`: what the selection says about a method.
* `Instrumentation.Yields`: what a method of some shape becomes, and its fate.
* `Instrumentation.result`: the method with its fate as the pass over a unit gives it.
* `InstrumentedUnit.Exact`: every method has the fate that its shape calls for, in order.

## Main results

* `Instrumentation.exists_yields`, `Instrumentation.Yields.result_eq`: every shape is covered, and
  the pass does what the shape calls for.
* `Instrumentation.onUnit_exact`: what becomes of the methods of a unit.
-/

namespace BuildDrift

namespace Instrumentation

/-! ### The selection -/

/-- There is a selection, and it does not have the method of the type. -/
def Rejects (i : Instrumentation) (t : TypeDefinition) (m : MethodDefinition) : Prop :=
  ∃ s, i.selection = some s ∧ s.hasMethod t m = false

/-- There is no selection, or it has the method of the type. -/
def Admits (i : Instrumentation) (t : TypeDefinition) (m : MethodDefinition) : Prop :=
  i.selection = none ∨ ∃ s, i.selection = some s ∧ s.hasMethod t m = true

section Selects

variable {i : Instrumentation} {t : TypeDefinition} {m : MethodDefinition}

theorem selects_eq_false_iff : i.selects t m = false ↔ i.Rejects t m := by
  rw [selects, Rejects]
  cases i.selection with
  | none => simp
  | some s => simp

theorem selects_eq_true_iff : i.selects t m = true ↔ i.Admits t m := by
  rw [selects, Admits]
  cases i.selection with
  | none => simp
  | some s => simp

end Selects

/-! ### Shapes of methods -/

/-- What a method of a type becomes, and its fate, by the shape of the method. Malformed methods
are passed as such, whatever the selection says. A single region has to have operations at its
bounds. -/
inductive Yields (i : Instrumentation) (t : TypeDefinition) (m : MethodDefinition) :
    MethodDefinition → Fate → Prop
  | malformed {cause : Malformation} (h : m.validate = .error cause) :
      Yields i t m m (.passed .malformed)
  | notSelected (hm : m.validate = .ok ()) (h : i.Rejects t m) :
      Yields i t m m (.passed .notSelected)
  | noRegion (hm : m.validate = .ok ()) (hs : i.Admits t m) (h : m.regions = []) :
      Yields i t m m (.passed .noRegion)
  | severalRegions (hm : m.validate = .ok ()) (hs : i.Admits t m) (h : 2 ≤ m.regions.length) :
      Yields i t m m (.passed (.severalRegions m.regions.length))
  | unalignedRegion {region : ExceptionRegion} (hm : m.validate = .ok ()) (hs : i.Admits t m)
      (h : m.regions = [region])
      (hbound : ∃ bound ∈ region.bounds, ∀ o ∈ m.operations, o.offset ≠ bound) :
      Yields i t m m (.passed .unalignedRegion)
  | injected {region : ExceptionRegion} (hm : m.validate = .ok ()) (hs : i.Admits t m)
      (h : m.regions = [region])
      (hbounds : ∀ bound ∈ region.bounds, ∃ o ∈ m.operations, o.offset = bound) :
      Yields i t m (m.instrumented i.config region) (.injected (m.tally i.config region))

variable (i : Instrumentation) (t : TypeDefinition) (m : MethodDefinition)

theorem exists_yields : ∃ m' f, i.Yields t m m' f := by
  cases hm : m.validate with
  | error cause => exact ⟨m, _, .malformed hm⟩
  | ok _ =>
    cases hs : i.selects t m with
    | false => exact ⟨m, _, .notSelected hm (selects_eq_false_iff.1 hs)⟩
    | true =>
      have hs := selects_eq_true_iff.1 hs
      have houtcome := i.outcome_onMethod m
      generalize i.onMethod m = x at houtcome
      cases houtcome with
      | malformed h => exact absurd (hm.symm.trans h) (by simp)
      | noRegion _ h => exact ⟨m, _, .noRegion hm hs h⟩
      | severalRegions _ h => exact ⟨m, _, .severalRegions hm hs h⟩
      | unaligned _ h haligned =>
        push Not at haligned
        exact ⟨m, _, .unalignedRegion hm hs h haligned⟩
      | injected h => exact ⟨_, _, .injected hm hs h.regions h.aligned⟩

/-! ### The methods of a type -/

/-- A method of a type as the pass over a unit leaves it; one that is refused is passed. -/
def result (i : Instrumentation) (t : TypeDefinition) (m : MethodDefinition) : Instrumented :=
  match i.onMethodOf t m with
  | .ok r => r
  | .error e => .ofError m e

variable {m}

theorem result_of_onMethodOf {r : Instrumented} (h : i.onMethodOf t m = .ok r) :
    i.result t m = r := by
  rw [result, h]

theorem result_of_onMethod {r : Instrumented} (hs : i.Admits t m)
    (h : i.onMethod m = .ok r) : i.result t m = r := by
  refine i.result_of_onMethodOf t ?_
  rw [onMethodOf, if_pos (selects_eq_true_iff.2 hs), h]

variable {i t}

/-- The pass does what the shape of a method calls for. -/
theorem Yields.result_eq {m' : MethodDefinition} {f : Fate} (h : i.Yields t m m' f) :
    (i.result t m).method = m' ∧ (i.result t m).fate = f := by
  cases h with
  | @malformed cause h =>
    have herror : i.onMethodOf t m = .error (.malformed cause) := by
      -- what the selection says makes no difference
      rw [onMethodOf, i.onMethod_eq_malformed h, h]
      exact ite_self _
    rw [result, herror]
    exact ⟨rfl, rfl⟩
  | notSelected hm h =>
    have hok : i.onMethodOf t m = .ok (.pass m .notSelected) := by
      rw [onMethodOf, selects_eq_false_iff.2 h, if_neg Bool.false_ne_true, hm]
      rfl
    rw [i.result_of_onMethodOf t hok]
    exact ⟨rfl, rfl⟩
  | noRegion hm hs h =>
    rw [i.result_of_onMethod t hs (i.onMethod_eq_noRegion ((m.validate_eq_ok_iff).1 hm) h)]
    exact ⟨rfl, rfl⟩
  | severalRegions hm hs h =>
    rw [i.result_of_onMethod t hs (i.onMethod_eq_severalRegions ((m.validate_eq_ok_iff).1 hm) h)]
    exact ⟨rfl, rfl⟩
  | unalignedRegion hm hs h hbound =>
    have haligned := i.onMethod_eq_unaligned ((m.validate_eq_ok_iff).1 hm) h (by simpa using hbound)
    rw [i.result_of_onMethod t hs haligned]
    exact ⟨rfl, rfl⟩
  | injected hm hs h hbounds =>
    obtain ⟨logs, hlogs⟩ := i.onMethod_eq_injected ⟨(m.validate_eq_ok_iff).1 hm, h, hbounds⟩
    rw [i.result_of_onMethod t hs hlogs]
    exact ⟨rfl, rfl⟩

variable (i t m)

theorem yields_result : i.Yields t m (i.result t m).method (i.result t m).fate := by
  obtain ⟨m', f, h⟩ := i.exists_yields t m
  obtain ⟨hm, hf⟩ := h.result_eq
  rw [hm, hf]
  exact h

theorem existsUnique_yields :
    ∃! y : MethodDefinition × Fate, i.Yields t m y.1 y.2 := by
  refine ⟨(_, _), i.yields_result t m, ?_⟩
  rintro ⟨m', f⟩ h
  obtain ⟨hm, hf⟩ := h.result_eq
  exact Prod.ext hm.symm hf.symm

variable {t m} in
/-- The shape of a method decides its fate. -/
theorem rightUnique_yields : Relator.RightUnique
    fun (x : TypeDefinition × MethodDefinition) f => ∃ m', i.Yields x.1 x.2 m' f := by
  rintro ⟨t, m⟩ f g ⟨m', hf⟩ ⟨m'', hg⟩
  exact hf.result_eq.2.symm.trans hg.result_eq.2

variable {i t m} in
theorem Yields.fullName_eq {m' : MethodDefinition} {f : Fate} (h : i.Yields t m m' f) :
    m'.fullName = m.fullName := by
  cases h <;> rfl

end Instrumentation

/-! ### Units -/

/-- The methods of a unit with their types, in order. -/
def CompiledUnit.members (u : CompiledUnit) : List (TypeDefinition × MethodDefinition) :=
  u.types.flatMap fun t => t.methods.map fun m => (t, m)

/-- Every method of a unit has become what its shape calls for. -/
structure InstrumentedUnit.Exact (i : Instrumentation) (u : CompiledUnit)
    (v : InstrumentedUnit) : Prop where
  name : v.unit.name = u.name
  /-- The types keep all but their methods, and these are what they should become, in order. -/
  types : List.Forall₂ (fun t t' => { t' with methods := [] } = { t with methods := [] } ∧
    List.Forall₂ (fun m m' => ∃ f, i.Yields t m m' f) t.methods t'.methods) u.types v.unit.types
  /-- There is one fate for every method, in order, and it is the one that it should have. -/
  fates : List.Forall₂ (fun x y => y.1 = x.2.fullName ∧ ∃ m', i.Yields x.1 x.2 m' y.2)
    u.members v.fates

/-- The fates in a unit that is exact are those that the shapes of the methods call for. -/
theorem InstrumentedUnit.Exact.map_snd_fates {i : Instrumentation} {u : CompiledUnit}
    {v : InstrumentedUnit} (h : v.Exact i u) {fates : List Fate}
    (hfates : List.Forall₂ (fun x f => ∃ m', i.Yields x.1 x.2 m' f) u.members fates) :
    v.fates.map Prod.snd = fates := by
  refine List.right_unique_forall₂' i.rightUnique_yields ?_ hfates
  rw [List.forall₂_map_right_iff]
  exact h.fates.imp fun _ _ hxy => hxy.2

namespace Instrumentation

variable (i : Instrumentation) (u : CompiledUnit)

theorem onType_eq (t : TypeDefinition) : i.onType t = t.methods.map (i.result t) :=
  rfl

theorem types_onUnit : (i.onUnit u).unit.types =
    u.types.map fun t => { t with methods := t.methods.map fun m => (i.result t m).method } := by
  simp only [onUnit, List.map_map, onType_eq]
  refine List.map_congr_left fun t _ => ?_
  simp only [Function.comp_apply, List.map_map]
  rfl

theorem fates_onUnit : (i.onUnit u).fates = u.members.map fun x =>
    ((i.result x.1 x.2).method.fullName, (i.result x.1 x.2).fate) := by
  simp only [onUnit, onType_eq, CompiledUnit.members, List.flatMap_map, List.map_flatMap,
    List.map_map]
  rfl

/-- Every method of a unit becomes what its shape calls for, and no method has two shapes. Only
malformed methods are refused, so labels are never at fault. -/
theorem onUnit_exact : (i.onUnit u).Exact i u ∧
    (∀ t m, ∃! y : MethodDefinition × Fate, i.Yields t m y.1 y.2) ∧
    (∀ m e, i.onMethod m = .error e ↔ ∃ cause, m.validate = .error cause ∧ e = .malformed cause) ∧
    ∀ m, m.validate = .ok () → ∀ f, i.onMethod m ≠ .error (.label f) := by
  refine ⟨⟨rfl, ?_, ?_⟩, i.existsUnique_yields, fun m e => i.onMethod_eq_error_iff, ?_⟩
  · rw [types_onUnit, List.forall₂_map_right_iff, List.forall₂_same]
    intro t _
    refine ⟨rfl, ?_⟩
    rw [List.forall₂_map_right_iff, List.forall₂_same]
    intro m _
    exact ⟨_, i.yields_result t m⟩
  · rw [fates_onUnit, List.forall₂_map_right_iff, List.forall₂_same]
    rintro ⟨t, m⟩ _
    have hyields := i.yields_result t m
    exact ⟨hyields.fullName_eq, _, hyields⟩
  · intro m hm f herror
    obtain ⟨cause, hcause, -⟩ := i.onMethod_eq_error_iff.1 herror
    exact absurd (hm.symm.trans hcause) (by simp)

/-- The test of the example with another name, other regions and another visibility. -/
def sampleTest (name : String) (spacing : Offset) (regions : List ExceptionRegion)
    (visibility : Visibility := .pub) : MethodDefinition :=
  { MethodDefinition.sample spacing with name, regions, visibility }

/-- A type with a test of every shape. Two of them cannot be reached from elsewhere; one of these
is malformed, since its operations are all in one place. -/
def sampleTests : TypeDefinition where
  space := "Sample"
  name := "StackTest"
  methods := [
    sampleTest "Test" 6 [MethodDefinition.sampleRegion 6],
    sampleTest "Flat" 6 [],
    sampleTest "Nested" 6 [MethodDefinition.sampleRegion 6, MethodDefinition.sampleRegion 6],
    sampleTest "Skewed" 6 [MethodDefinition.sampleRegion 5],
    sampleTest "Hidden" 6 [MethodDefinition.sampleRegion 6] .priv,
    sampleTest "Broken" 0 [MethodDefinition.sampleRegion 0] .priv]

/-- Of the two tests that cannot be reached from elsewhere, one is passed for that reason and the
malformed one as malformed; the others are passed or instrumented as their regions say. -/
theorem onUnit_exact_sample :
    let i := ({} : Instrumentation).selecting .visible
    let broken := sampleTest "Broken" 0 [MethodDefinition.sampleRegion 0] .priv
    i.Rejects sampleTests broken ∧ (i.onUnit ⟨"Sample", [sampleTests]⟩).fates.map Prod.snd = [
      .injected ((sampleTest "Test" 6 [MethodDefinition.sampleRegion 6]).tally {}
        (MethodDefinition.sampleRegion 6)),
      .passed .noRegion, .passed (.severalRegions 2), .passed .unalignedRegion,
      .passed .notSelected, .passed .malformed] := by
  intro i broken
  have hprivate {m : MethodDefinition} (h : m.visibility = .priv) : i.Rejects sampleTests m :=
    ⟨.visible, rfl, by simp [Selection.visible, h, Visibility.isExported]⟩
  have hpublic {m : MethodDefinition} (h : m.visibility = .pub) : i.Admits sampleTests m :=
    .inr ⟨.visible, rfl, by simp [Selection.visible, h, sampleTests, Visibility.isExported]⟩
  refine ⟨hprivate rfl, (i.onUnit_exact ⟨"Sample", [sampleTests]⟩).1.map_snd_fates ?_⟩
  have hbroken : broken.validate =
      .error (.part broken.fullName (.offsetsNotIncreasing 0 0)) := by rfl
  exact .cons ⟨_, .injected (by rfl) (hpublic rfl) rfl MethodDefinition.injectable_sample.aligned⟩
    (.cons ⟨_, .noRegion (by rfl) (hpublic rfl) rfl⟩
      (.cons ⟨_, .severalRegions (by rfl) (hpublic rfl) (by decide)⟩
        (.cons ⟨_, .unalignedRegion (by rfl) (hpublic rfl) rfl ⟨35, by decide, by decide⟩⟩
          (.cons ⟨_, .notSelected (by rfl) (hprivate rfl)⟩
            (.cons ⟨_, .malformed hbroken⟩ .nil)))))

end Instrumentation

end BuildDrift
