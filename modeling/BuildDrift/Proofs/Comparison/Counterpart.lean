import BuildDrift.Comparison.Unit
import Mathlib.Data.List.Induction
import Mathlib.Data.Option.Basic

/-!
# Counterparts and classes

When builds are compared, every method of the newer build belongs to one of seven classes. Which
one it is depends on what is left out, on the counterpart of its type, which is the last type of its
full name, and on its counterpart in that type.

## Main definitions

* `FirstAt`, `LastAt`: the first and the last element of a list with a property.
* `CompiledUnit.Counterpart`, `TypeDefinition.Counterpart`: counterparts of types and methods.
* `Exclusion.Excludes`, `Exclusion.Spares`: what is left out, and what is not.
* `MethodClass`: the classes.
* `MethodDefinition.HasClass`, `TypeDefinition.HasClass`: the class of a method, for a type of the
  older build and for the older build.

## Main results

* `TypeDefinition.counterpart?_eq_some_iff`, `CompiledUnit.lastTypeNamed?_eq_some_iff`: the
  look-ups give the counterparts.
* `MethodDefinition.hasClass_iff`: the verdict on a method gives its class.
* `TypeDefinition.existsUnique_hasClass`: every method is in exactly one class.
-/

namespace BuildDrift

/-! ### First and last elements -/

section Lists

variable {α : Type*}

/-- The element at a position of a list is the first with a property. -/
def FirstAt (l : List α) (P : α → Prop) (k : ℕ) (a : α) : Prop :=
  l[k]? = some a ∧ P a ∧ ∀ j < k, ∀ b, l[j]? = some b → ¬P b

/-- The element at a position of a list is the last with a property. -/
def LastAt (l : List α) (P : α → Prop) (k : ℕ) (a : α) : Prop :=
  l[k]? = some a ∧ P a ∧ ∀ j > k, ∀ b, l[j]? = some b → ¬P b

theorem find?_eq_some_iff_firstAt {p : α → Bool} {l : List α} {a : α} :
    l.find? p = some a ↔ ∃ k, FirstAt l (fun b => p b = true) k a := by
  rw [List.find?_eq_some_iff_getElem]
  constructor
  · rintro ⟨ha, k, hk, rfl, hbefore⟩
    refine ⟨k, List.getElem?_eq_getElem hk, ha, fun j hj b hb => ?_⟩
    obtain ⟨hlt, rfl⟩ := List.getElem?_eq_some_iff.1 hb
    simpa using hbefore j hj
  · rintro ⟨k, hka, ha, hbefore⟩
    obtain ⟨hk, rfl⟩ := List.getElem?_eq_some_iff.1 hka
    refine ⟨ha, k, hk, rfl, fun j hj => ?_⟩
    simpa using hbefore j hj _ (List.getElem?_eq_getElem (Nat.lt_trans hj hk))

theorem getElem?_append_singleton_iff {l : List α} {x b : α} {j : ℕ} :
    (l ++ [x])[j]? = some b ↔ l[j]? = some b ∨ j = l.length ∧ b = x := by
  grind

theorem lastAt_append_singleton_iff {l : List α} {P : α → Prop} {x a : α} {k : ℕ} :
    LastAt (l ++ [x]) P k a ↔ P x ∧ a = x ∧ k = l.length ∨ ¬P x ∧ LastAt l P k a := by
  have hx : (l ++ [x])[l.length]? = some x := List.getElem?_concat_length
  constructor
  · rintro ⟨hka, ha, hlast⟩
    rcases getElem?_append_singleton_iff.1 hka with hka | ⟨rfl, rfl⟩
    · have hk := (List.getElem?_eq_some_iff.1 hka).1
      exact .inr ⟨hlast _ hk x hx, hka, ha, fun j hj b hb =>
        hlast j hj b (getElem?_append_singleton_iff.2 (.inl hb))⟩
    · exact .inl ⟨ha, rfl, rfl⟩
  · rintro (⟨hPx, rfl, rfl⟩ | ⟨hPx, hka, ha, hlast⟩)
    · refine ⟨hx, hPx, fun j hj b hb => ?_⟩
      exact absurd (List.getElem?_eq_some_iff.1 hb).1 (by simpa using Nat.succ_le_of_lt hj)
    · refine ⟨getElem?_append_singleton_iff.2 (.inl hka), ha, fun j hj b hb => ?_⟩
      rcases getElem?_append_singleton_iff.1 hb with hb | ⟨-, rfl⟩
      · exact hlast j hj b hb
      · exact hPx

/-- Searching from the end finds the last element. -/
theorem find?_reverse_zipIdx_eq_some_iff {p : α → Bool} {l : List α} {a : α} {k : ℕ} :
    (l.zipIdx.reverse.find? fun x => p x.1) = some (a, k) ↔
      LastAt l (fun b => p b = true) k a := by
  -- the search begins with the last element, so the induction takes that one off
  induction l using List.reverseRecOn with
  | nil => simp [LastAt]
  | append_singleton l x ih =>
    rw [lastAt_append_singleton_iff, ← ih, List.zipIdx_append, List.reverse_append]
    simp only [Nat.zero_add, List.zipIdx_singleton, List.reverse_singleton,
      List.singleton_append, List.find?_cons]
    cases hx : p x with
    | true => simp [eq_comm]
    | false => simp

end Lists

/-! ### Counterparts -/

/-- The type at a position of a unit is the counterpart of a type: the last of its full name. -/
def CompiledUnit.Counterpart (old : CompiledUnit) (t : TypeDefinition) (q : ℕ)
    (s : TypeDefinition) : Prop :=
  LastAt old.types (fun b => b.fullName = t.fullName) q s

theorem CompiledUnit.lastTypeNamed?_eq_some_iff {old : CompiledUnit} {t s : TypeDefinition}
    {q : ℕ} : old.lastTypeNamed? t.fullName = some (s, q) ↔ old.Counterpart t q s := by
  have hfind := find?_reverse_zipIdx_eq_some_iff (l := old.types) (a := s) (k := q)
    (p := fun b => decide (b.fullName = t.fullName))
  simp only [decide_eq_true_iff] at hfind
  exact hfind

theorem CompiledUnit.lastTypeNamed?_eq_none_iff {old : CompiledUnit} {name : String} :
    old.lastTypeNamed? name = none ↔ ∀ s ∈ old.types, s.fullName ≠ name := by
  rw [lastTypeNamed?, List.find?_eq_none]
  constructor
  · intro h s hs
    obtain ⟨q, hq⟩ := List.mem_iff_getElem?.1 hs
    have hmem : (s, q) ∈ old.types.zipIdx.reverse :=
      List.mem_reverse.2 (List.mem_zipIdx_iff_getElem?.2 hq)
    simpa using h _ hmem
  · rintro h ⟨s, q⟩ hmem
    have hq := List.mem_zipIdx_iff_getElem?.1 (List.mem_reverse.1 hmem)
    simpa using h s (List.mem_of_getElem? hq)

/-- A type has at most one counterpart. -/
theorem CompiledUnit.Counterpart.unique {old : CompiledUnit} {t s s' : TypeDefinition} {q q' : ℕ}
    (hs : old.Counterpart t q s) (hs' : old.Counterpart t q' s') : q = q' ∧ s = s' := by
  rw [← lastTypeNamed?_eq_some_iff] at hs hs'
  obtain ⟨hst, hq⟩ := Prod.mk.inj (Option.some.inj (hs.symm.trans hs'))
  exact ⟨hq, hst⟩

theorem CompiledUnit.exists_counterpart_iff {old : CompiledUnit} {t : TypeDefinition} :
    (∃ q s, old.Counterpart t q s) ↔ ∃ s ∈ old.types, s.fullName = t.fullName := by
  constructor
  · rintro ⟨q, s, hs⟩
    exact ⟨s, List.mem_of_getElem? hs.1, hs.2.1⟩
  · rintro ⟨s, hs, hname⟩
    cases hlast : old.lastTypeNamed? t.fullName with
    | none => exact absurd hname (lastTypeNamed?_eq_none_iff.1 hlast s hs)
    | some x => exact ⟨x.2, x.1, lastTypeNamed?_eq_some_iff.1 hlast⟩

/-- If full names are distinct, the counterpart of a type is the type of its full name. -/
theorem CompiledUnit.counterpart_iff_of_nodup {old : CompiledUnit}
    (h : (old.types.map TypeDefinition.fullName).Nodup) {t s : TypeDefinition} {q : ℕ} :
    old.Counterpart t q s ↔ old.types[q]? = some s ∧ s.fullName = t.fullName := by
  refine ⟨fun hs => ⟨hs.1, hs.2.1⟩, fun ⟨hq, hname⟩ => ⟨hq, hname, fun r hr b hb hb' => ?_⟩⟩
  obtain ⟨hqlt, rfl⟩ := List.getElem?_eq_some_iff.1 hq
  obtain ⟨hrlt, rfl⟩ := List.getElem?_eq_some_iff.1 hb
  rw [List.Nodup, List.pairwise_map] at h
  exact List.pairwise_iff_getElem.1 h q r hqlt hrlt hr (hname.trans hb'.symm)

/-- The method at a position of a type is the counterpart of a method. -/
inductive TypeDefinition.Counterpart (old : TypeDefinition) (m : MethodDefinition) (k : ℕ)
    (c : MethodDefinition) : Prop
  /-- The first method of its name and signature. -/
  | signature (h : FirstAt old.methods (fun b => b.name = m.name ∧ b.signature = m.signature) k c)
  /-- If there is none of its name and signature, the first method of its name. -/
  | name (hnone : ∀ b ∈ old.methods, b.name = m.name → b.signature ≠ m.signature)
      (h : FirstAt old.methods (fun b => b.name = m.name) k c)

theorem TypeDefinition.counterpart?_eq_some_iff {old : TypeDefinition} {m c : MethodDefinition} :
    old.counterpart? m = some c ↔ ∃ k, old.Counterpart m k c := by
  have hsignature : ((old.methodsNamed m.name).find? fun b => b.signature = m.signature) =
      old.methods.find? fun b => b.name = m.name ∧ b.signature = m.signature := by
    simp only [methodsNamed, List.find?_filter, decide_eq_true_iff]
  have hnone : (old.methods.find? fun b => b.name = m.name ∧ b.signature = m.signature) = none ↔
      ∀ b ∈ old.methods, b.name = m.name → b.signature ≠ m.signature := by
    simp
  refine (Option.orElse_eq_some _ _ c).trans ?_
  rw [hsignature, hnone, methodNamed?, find?_eq_some_iff_firstAt, find?_eq_some_iff_firstAt]
  simp only [decide_eq_true_iff]
  constructor
  · rintro (⟨k, h⟩ | ⟨h, k, hk⟩)
    · exact ⟨k, .signature h⟩
    · exact ⟨k, .name h hk⟩
  · rintro ⟨k, h⟩
    cases h with
    | signature h => exact .inl ⟨k, h⟩
    | name h hk => exact .inr ⟨h, k, hk⟩

theorem TypeDefinition.counterpart?_eq_none_iff {old : TypeDefinition} {m : MethodDefinition} :
    old.counterpart? m = none ↔ ∀ c ∈ old.methods, c.name ≠ m.name := by
  have hmethodsNamed (h : ∀ c ∈ old.methods, c.name ≠ m.name) : old.methodsNamed m.name = [] :=
    List.filter_eq_nil_iff.2 fun c hc => by simpa using h c hc
  have hmethodNamed : old.methodNamed? m.name = none ↔ ∀ c ∈ old.methods, c.name ≠ m.name := by
    simp [methodNamed?]
  refine (Option.orElse_eq_none _ _).trans ?_
  rw [hmethodNamed]
  refine ⟨fun h => h.2, fun h => ⟨?_, h⟩⟩
  rw [hmethodsNamed h, List.find?_nil]

/-! ### What is left out -/

namespace Exclusion

/-- An item of a kind and a name is left out: an exclusion is about the kind, and its pattern picks
the name. -/
def Excludes (exclusions : List Exclusion) (kind : ItemKind) (name : String) : Prop :=
  ∃ e ∈ exclusions, e.kind = kind ∧ e.pattern.picks name = true

/-- A method of a type is not left out, and neither is the type. -/
def Spares (exclusions : List Exclusion) (t : TypeDefinition) (m : MethodDefinition) : Prop :=
  ¬Excludes exclusions .type t.fullName ∧ ¬Excludes exclusions .method m.name

variable (exclusions : List Exclusion) (kind : ItemKind) (name : String)

instance : Decidable (Excludes exclusions kind name) :=
  inferInstanceAs (Decidable (∃ e ∈ exclusions, e.kind = kind ∧ e.pattern.picks name = true))

instance (t : TypeDefinition) (m : MethodDefinition) : Decidable (Spares exclusions t m) :=
  inferInstanceAs (Decidable (¬_ ∧ ¬_))

variable {exclusions kind name}

theorem anyCovers_iff : anyCovers exclusions kind name = true ↔ Excludes exclusions kind name := by
  simp only [anyCovers, Excludes, covers, List.any_eq_true, Bool.and_eq_true, decide_eq_true_iff]

end Exclusion

/-! ### Classes -/

/-- What can become of a method of the newer build. -/
inductive MethodClass where
  /-- Its type is left out. -/
  | typeExcluded
  /-- Its type has no counterpart. -/
  | typeUnmatched
  /-- It is left out. -/
  | excluded
  /-- It has no counterpart. -/
  | unmatched
  /-- It or its counterpart is malformed. -/
  | incomparable (cause : Malformation)
  /-- Its body and that of its counterpart are not identical. -/
  | changed
  /-- Its body and that of its counterpart are identical. -/
  | unchanged
  deriving DecidableEq, Repr

/-- The class of a method whose type has a counterpart. -/
inductive MethodDefinition.HasClass (exclusions : List Exclusion) (old : TypeDefinition)
    (m : MethodDefinition) : MethodClass → Prop
  | excluded (h : Exclusion.Excludes exclusions .method m.name) :
      HasClass exclusions old m .excluded
  | unmatched (h : ¬Exclusion.Excludes exclusions .method m.name)
      (hnone : ∀ c ∈ old.methods, c.name ≠ m.name) : HasClass exclusions old m .unmatched
  | incomparable {k : ℕ} {c : MethodDefinition} {cause : Malformation}
      (h : ¬Exclusion.Excludes exclusions .method m.name) (hc : old.Counterpart m k c)
      (hcause : c.validate = .error cause ∨ c.validate = .ok () ∧ m.validate = .error cause) :
      HasClass exclusions old m (.incomparable cause)
  | changed {k : ℕ} {c : MethodDefinition} (h : ¬Exclusion.Excludes exclusions .method m.name)
      (hc : old.Counterpart m k c) (hold : c.validate = .ok ()) (hnew : m.validate = .ok ())
      (hbody : Body.compare c.operations m.operations ≠ .identical) :
      HasClass exclusions old m .changed
  | unchanged {k : ℕ} {c : MethodDefinition} (h : ¬Exclusion.Excludes exclusions .method m.name)
      (hc : old.Counterpart m k c) (hold : c.validate = .ok ()) (hnew : m.validate = .ok ())
      (hbody : Body.compare c.operations m.operations = .identical) :
      HasClass exclusions old m .unchanged

/-- The class of a method of a type. -/
inductive TypeDefinition.HasClass (exclusions : List Exclusion) (old : CompiledUnit)
    (t : TypeDefinition) (m : MethodDefinition) : MethodClass → Prop
  | typeExcluded (h : Exclusion.Excludes exclusions .type t.fullName) :
      HasClass exclusions old t m .typeExcluded
  | typeUnmatched (h : ¬Exclusion.Excludes exclusions .type t.fullName)
      (hnone : ∀ s ∈ old.types, s.fullName ≠ t.fullName) :
      HasClass exclusions old t m .typeUnmatched
  | ofMethod {q : ℕ} {s : TypeDefinition} {f : MethodClass}
      (h : ¬Exclusion.Excludes exclusions .type t.fullName) (hs : old.Counterpart t q s)
      (hm : m.HasClass exclusions s f) : HasClass exclusions old t m f

/-- The class that a verdict stands for. -/
def MethodVerdict.toClass : MethodVerdict → MethodClass
  | excluded => .excluded
  | unmatched => .unmatched
  | incomparable cause => .incomparable cause
  | compared .identical => .unchanged
  | compared _ => .changed

namespace MethodDefinition

variable {exclusions : List Exclusion} {old : TypeDefinition} {m c : MethodDefinition} {k : ℕ}

theorem verdict_of_excludes (h : Exclusion.Excludes exclusions .method m.name) :
    m.verdict exclusions old = .excluded := by
  rw [verdict, if_pos (Exclusion.anyCovers_iff.2 h)]

theorem verdict_of_forall_ne (h : ¬Exclusion.Excludes exclusions .method m.name)
    (hnone : ∀ c ∈ old.methods, c.name ≠ m.name) : m.verdict exclusions old = .unmatched := by
  rw [verdict, if_neg (mt Exclusion.anyCovers_iff.1 h),
    TypeDefinition.counterpart?_eq_none_iff.2 hnone]

/-- A method cannot be compared if its counterpart or, failing that, the method is malformed. -/
theorem verdict_of_error {cause : Malformation}
    (h : ¬Exclusion.Excludes exclusions .method m.name) (hc : old.Counterpart m k c)
    (hcause : c.validate = .error cause ∨ c.validate = .ok () ∧ m.validate = .error cause) :
    m.verdict exclusions old = .incomparable cause := by
  rw [verdict, if_neg (mt Exclusion.anyCovers_iff.1 h)]
  rcases hcause with hold | ⟨hold, hnew⟩
  · simp only [TypeDefinition.counterpart?_eq_some_iff.2 ⟨k, hc⟩, hold]
  · simp only [TypeDefinition.counterpart?_eq_some_iff.2 ⟨k, hc⟩, hold, hnew]

/-- A well-formed method is compared with its counterpart. -/
theorem verdict_of_ok (h : ¬Exclusion.Excludes exclusions .method m.name)
    (hc : old.Counterpart m k c) (hold : c.validate = .ok ()) (hnew : m.validate = .ok ()) :
    m.verdict exclusions old = .compared (Body.compare c.operations m.operations) := by
  rw [verdict, if_neg (mt Exclusion.anyCovers_iff.1 h)]
  simp only [TypeDefinition.counterpart?_eq_some_iff.2 ⟨k, hc⟩, hold, hnew]

variable (exclusions old m) in
/-- A method has the class of its verdict. -/
theorem hasClass_verdict : m.HasClass exclusions old (m.verdict exclusions old).toClass := by
  by_cases h : Exclusion.Excludes exclusions .method m.name
  · rw [verdict_of_excludes h]
    exact .excluded h
  · cases hc : old.counterpart? m with
    | none =>
      have hnone := TypeDefinition.counterpart?_eq_none_iff.1 hc
      rw [verdict_of_forall_ne h hnone]
      exact .unmatched h hnone
    | some c =>
      obtain ⟨k, hk⟩ := TypeDefinition.counterpart?_eq_some_iff.1 hc
      cases hold : c.validate with
      | error cause =>
        rw [verdict_of_error h hk (.inl hold)]
        exact .incomparable h hk (.inl hold)
      | ok _ =>
        cases hnew : m.validate with
        | error cause =>
          rw [verdict_of_error h hk (.inr ⟨hold, hnew⟩)]
          exact .incomparable h hk (.inr ⟨hold, hnew⟩)
        | ok _ =>
          rw [verdict_of_ok h hk hold hnew]
          cases hbody : Body.compare c.operations m.operations with
          | identical => exact .unchanged h hk hold hnew hbody
          | _ => exact .changed h hk hold hnew (by simp [hbody])

/-- A method has no class but that of its verdict. -/
theorem HasClass.eq {f : MethodClass} (h : m.HasClass exclusions old f) :
    (m.verdict exclusions old).toClass = f := by
  cases h with
  | excluded h => rw [verdict_of_excludes h, MethodVerdict.toClass]
  | unmatched h hnone => rw [verdict_of_forall_ne h hnone, MethodVerdict.toClass]
  | incomparable h hc hcause => rw [verdict_of_error h hc hcause, MethodVerdict.toClass]
  | changed h hc hold hnew hbody =>
    rw [verdict_of_ok h hc hold hnew, MethodVerdict.toClass]
    exact hbody
  | unchanged h hc hold hnew hbody =>
    rw [verdict_of_ok h hc hold hnew, hbody, MethodVerdict.toClass]

theorem hasClass_iff {f : MethodClass} :
    m.HasClass exclusions old f ↔ (m.verdict exclusions old).toClass = f :=
  ⟨HasClass.eq, fun h => h ▸ hasClass_verdict exclusions old m⟩

end MethodDefinition

namespace TypeDefinition

variable {exclusions : List Exclusion} {old : CompiledUnit} {t s : TypeDefinition} {q : ℕ}

/-- The verdict on a type, with what it says about its counterpart. -/
inductive Judged (exclusions : List Exclusion) (old : CompiledUnit) (t : TypeDefinition) :
    TypeVerdict → Prop
  | excluded (h : Exclusion.Excludes exclusions .type t.fullName) :
      Judged exclusions old t .excluded
  | unmatched (h : ¬Exclusion.Excludes exclusions .type t.fullName)
      (hnone : ∀ s ∈ old.types, s.fullName ≠ t.fullName) : Judged exclusions old t .unmatched
  | matched {q : ℕ} {s : TypeDefinition} (h : ¬Exclusion.Excludes exclusions .type t.fullName)
      (hs : old.Counterpart t q s) : Judged exclusions old t
        (.matched q (t.methods.map (MethodDefinition.verdict exclusions s)))

theorem judged_verdict (exclusions : List Exclusion) (old : CompiledUnit) (t : TypeDefinition) :
    t.Judged exclusions old (t.verdict exclusions old) := by
  rw [verdict]
  split_ifs with h
  · exact .excluded (Exclusion.anyCovers_iff.1 h)
  · rw [Exclusion.anyCovers_iff] at h
    cases hs : old.lastTypeNamed? t.fullName with
    | none => exact .unmatched h (CompiledUnit.lastTypeNamed?_eq_none_iff.1 hs)
    | some x => exact .matched h (CompiledUnit.lastTypeNamed?_eq_some_iff.1 hs)

/-- The class of a method whose type has a counterpart. -/
theorem hasClass_iff_of_counterpart {m : MethodDefinition} {f : MethodClass}
    (h : ¬Exclusion.Excludes exclusions .type t.fullName) (hs : old.Counterpart t q s) :
    t.HasClass exclusions old m f ↔ m.HasClass exclusions s f := by
  refine ⟨fun hf => ?_, .ofMethod h hs⟩
  cases hf with
  | typeExcluded h' => exact absurd h' h
  | typeUnmatched _ hnone => exact absurd hs.2.1 (hnone s (List.mem_of_getElem? hs.1))
  | ofMethod _ hs' hm =>
    obtain ⟨-, rfl⟩ := hs.unique hs'
    exact hm

/-- Every method is in exactly one class. -/
theorem existsUnique_hasClass (exclusions : List Exclusion) (old : CompiledUnit)
    (t : TypeDefinition) (m : MethodDefinition) : ∃! f, t.HasClass exclusions old m f := by
  have hjudged := judged_verdict exclusions old t
  generalize t.verdict exclusions old = v at hjudged
  cases hjudged with
  | excluded h =>
    refine ⟨_, .typeExcluded h, fun f hf => ?_⟩
    cases hf with
    | typeExcluded _ => rfl
    | typeUnmatched h' _ => exact absurd h h'
    | ofMethod h' _ _ => exact absurd h h'
  | unmatched h hnone =>
    refine ⟨_, .typeUnmatched h hnone, fun f hf => ?_⟩
    cases hf with
    | typeExcluded h' => exact absurd h' h
    | typeUnmatched _ _ => rfl
    | ofMethod _ hs _ => exact absurd hs.2.1 (hnone _ (List.mem_of_getElem? hs.1))
  | matched h hs =>
    simp only [hasClass_iff_of_counterpart h hs, MethodDefinition.hasClass_iff]
    exact existsUnique_eq'

theorem hasClass_iff_spared (hs : old.Counterpart t q s) {m : MethodDefinition} {f : MethodClass}
    (hf : f ≠ .typeExcluded) : t.HasClass exclusions old m f ↔
      ¬Exclusion.Excludes exclusions .type t.fullName ∧ m.HasClass exclusions s f := by
  by_cases hspared : Exclusion.Excludes exclusions .type t.fullName
  · refine iff_of_false (fun hclass => ?_) fun h => h.1 hspared
    exact hf ((t.existsUnique_hasClass exclusions old m).unique hclass (.typeExcluded hspared))
  · rw [hasClass_iff_of_counterpart hspared hs, and_iff_right hspared]

end TypeDefinition

end BuildDrift
