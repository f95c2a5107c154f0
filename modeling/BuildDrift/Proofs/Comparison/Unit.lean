import BuildDrift.Proofs.Comparison.Counterpart
import Mathlib.Data.List.Zip
import Mathlib.Data.Prod.Lex

/-!
# The comparison of units is exact

The results of a comparison hold what has become of the methods of the newer build, nothing else,
and nothing twice. Methods that cannot be compared, methods and types without counterpart, and
methods that have changed are those of the respective classes, and they are in the order of the
newer build: types first, then methods within a type.

## Main definitions

* `CompiledUnit.HasMethod`: the method at a place of a unit.
* `Incomparable.place`, `Unmatched.place`: the places of results.
* `ChangedType.Describes`: what is said of a type with changed methods.
* `UnitDiff.Exact`: results that hold exactly the methods of the respective classes.

## Main results

* `TypeDefinition.hasClass_iff_entries`: the verdict on a type gives the classes of its methods.
* `UnitDiff.mem_incomparable_iff`, `UnitDiff.type_mem_unmatched_iff`,
  `UnitDiff.method_mem_unmatched_iff`, `UnitDiff.exists_changedType_iff`: what the results hold.
* `UnitDiff.pairwise_incomparable`, `UnitDiff.pairwise_unmatched`,
  `UnitDiff.pairwise_changedTypes`: their order.
* `UnitDiff.between_exact`: comparing units is exact.
-/

namespace BuildDrift

/-! ### Places -/

/-- The method at a position of the type at a position of a unit. -/
def CompiledUnit.HasMethod (u : CompiledUnit) (p k : ℕ) (t : TypeDefinition)
    (m : MethodDefinition) : Prop :=
  u.types[p]? = some t ∧ t.methods[k]? = some m

theorem CompiledUnit.HasMethod.unique {u : CompiledUnit} {p k : ℕ} {t t' : TypeDefinition}
    {m m' : MethodDefinition} (h : u.HasMethod p k t m) (h' : u.HasMethod p k t' m') :
    t = t' ∧ m = m' := by
  obtain rfl := Option.some.inj (h.1.symm.trans h'.1)
  exact ⟨rfl, Option.some.inj (h.2.symm.trans h'.2)⟩

/-- The place of a method: the position of its type, then its own. -/
def Incomparable.place (x : Incomparable) : ℕ ×ₗ ℕ :=
  toLex (x.typePosition, x.position)

/-- The place of an item without counterpart. -/
def Unmatched.place : Unmatched → ℕ ×ₗ ℕ
  | type p _ => toLex (p, 0)
  | method p k _ => toLex (p, k)

theorem pairwise_zipIdx {α : Type*} (l : List α) : l.zipIdx.Pairwise fun x y => x.2 < y.2 := by
  rw [← List.pairwise_map (f := Prod.snd), List.zipIdx_map_snd]
  exact List.pairwise_lt_range'

theorem mem_flatMap_zipIdx_iff {α β : Type*} {l : List α} {f : α × ℕ → List β} {y : β} :
    y ∈ l.zipIdx.flatMap f ↔ ∃ i a, l[i]? = some a ∧ y ∈ f (a, i) := by
  simp only [List.mem_flatMap, Prod.exists, List.mem_zipIdx_iff_getElem?]
  exact exists_comm

/-- Items that are in order for every element, and from one element to the next, are in order. -/
theorem pairwise_flatMap_zipIdx {α β : Type*} {R : β → β → Prop} {l : List α}
    {f : α × ℕ → List β} (hwithin : ∀ a, (f a).Pairwise R)
    (hacross : ∀ a b, a.2 < b.2 → ∀ x ∈ f a, ∀ y ∈ f b, R x y) :
    (l.zipIdx.flatMap f).Pairwise R :=
  List.pairwise_flatMap.2 ⟨fun a _ => hwithin a, (pairwise_zipIdx l).imp fun hlt => hacross _ _ hlt⟩

/-! ### The methods of a type -/

namespace MethodVerdict

@[simp] theorem toClass_eq_incomparable_iff {v : MethodVerdict} {cause : Malformation} :
    v.toClass = .incomparable cause ↔ v = .incomparable cause := by
  cases v with
  | compared body => cases body <;> simp [toClass]
  | _ => simp [toClass]

@[simp] theorem toClass_eq_unmatched_iff {v : MethodVerdict} :
    v.toClass = .unmatched ↔ v = .unmatched := by
  cases v with
  | compared body => cases body <;> simp [toClass]
  | _ => simp [toClass]

end MethodVerdict

namespace TypeVerdict

theorem entries_matched (t : TypeDefinition) (q : ℕ) (f : MethodDefinition → MethodVerdict) :
    (matched q (t.methods.map f)).entries t = t.methods.zipIdx.map fun x => (x.2, x.1, f x.1) := by
  have hzip : t.methods.zip (t.methods.map f) = t.methods.map fun m => (m, f m) := by
    simpa using List.zip_map' (f := id) (g := f) (l := t.methods)
  rw [entries, hzip, List.zipIdx_map, List.map_map]
  rfl

end TypeVerdict

namespace TypeDefinition

variable {exclusions : List Exclusion} {old : CompiledUnit} {t : TypeDefinition} {k p : ℕ}
  {m : MethodDefinition}

/-- The entries of a type are its methods with their verdicts, if the type is compared. -/
theorem mem_entries_iff {v : MethodVerdict} :
    (k, m, v) ∈ (t.verdict exclusions old).entries t ↔
      t.methods[k]? = some m ∧ ¬Exclusion.Excludes exclusions .type t.fullName ∧
        ∃ q s, old.Counterpart t q s ∧ m.verdict exclusions s = v := by
  have hjudged := judged_verdict exclusions old t
  generalize t.verdict exclusions old = w at hjudged ⊢
  cases hjudged with
  | excluded h => exact iff_of_false List.not_mem_nil fun h' => h'.2.1 h
  | unmatched h hnone =>
    refine iff_of_false List.not_mem_nil ?_
    rintro ⟨-, -, q, s, hs, -⟩
    exact hnone s (List.mem_of_getElem? hs.1) hs.2.1
  | @matched q s h hs =>
    rw [TypeVerdict.entries_matched, List.mem_map]
    constructor
    · rintro ⟨⟨m', k'⟩, hmem, heq⟩
      cases heq
      exact ⟨List.mem_zipIdx_iff_getElem?.1 hmem, h, q, s, hs, rfl⟩
    · rintro ⟨hk, -, q', s', hs', rfl⟩
      obtain ⟨rfl, rfl⟩ := hs.unique hs'
      exact ⟨(m, k), List.mem_zipIdx_iff_getElem?.2 hk, rfl⟩

/-- Entries are in the order of the methods. -/
theorem pairwise_entries :
    ((t.verdict exclusions old).entries t).Pairwise fun x y => x.1 < y.1 := by
  have hjudged := judged_verdict exclusions old t
  generalize t.verdict exclusions old = w at hjudged ⊢
  cases hjudged with
  | excluded h => exact .nil
  | unmatched h hnone => exact .nil
  | matched h hs =>
    rw [TypeVerdict.entries_matched, List.pairwise_map]
    exact pairwise_zipIdx t.methods

/-- The classes of the methods of a type that is compared are those of their verdicts. -/
theorem hasClass_iff_entries {f : MethodClass} (hexcluded : f ≠ .typeExcluded)
    (hunmatched : f ≠ .typeUnmatched) : (t.methods[k]? = some m ∧ t.HasClass exclusions old m f) ↔
      ∃ v, (k, m, v) ∈ (t.verdict exclusions old).entries t ∧ v.toClass = f := by
  simp only [mem_entries_iff]
  constructor
  · rintro ⟨hk, hf⟩
    cases hf with
    | typeExcluded _ => exact absurd rfl hexcluded
    | typeUnmatched _ _ => exact absurd rfl hunmatched
    | @ofMethod q s _ h hs hm => exact ⟨_, ⟨hk, h, q, s, hs, rfl⟩, hm.eq⟩
  · rintro ⟨v, ⟨hk, h, q, s, hs, rfl⟩, hf⟩
    exact ⟨hk, .ofMethod h hs (MethodDefinition.hasClass_iff.2 hf)⟩

/-! ### What is reported of a type -/

theorem mem_incomparableMethods_iff {x : Incomparable} :
    x ∈ (t.verdict exclusions old).incomparableMethods p t ↔
      x.typePosition = p ∧ ∃ m, t.methods[x.position]? = some m ∧
        t.HasClass exclusions old m (.incomparable x.cause) := by
  obtain ⟨p', k, cause⟩ := x
  simp only [hasClass_iff_entries (f := .incomparable cause) (by simp) (by simp),
    MethodVerdict.toClass_eq_incomparable_iff, exists_eq_right, TypeVerdict.incomparableMethods,
    List.mem_filterMap, Prod.exists]
  constructor
  · rintro ⟨k', m, v, hmem, hv⟩
    split at hv
    · cases hv
      exact ⟨rfl, m, hmem⟩
    · exact absurd hv (by simp)
  · rintro ⟨rfl, m, hmem⟩
    exact ⟨k, m, _, hmem, rfl⟩

theorem type_mem_unmatchedItems_iff {p' : ℕ} {t' : TypeDefinition} :
    .type p' t' ∈ (t.verdict exclusions old).unmatchedItems p t ↔
      p' = p ∧ t' = t ∧ ¬Exclusion.Excludes exclusions .type t.fullName ∧
        ∀ s ∈ old.types, s.fullName ≠ t.fullName := by
  have hjudged := judged_verdict exclusions old t
  generalize t.verdict exclusions old = w at hjudged ⊢
  cases hjudged with
  | excluded h => exact iff_of_false List.not_mem_nil fun h' => h'.2.2.1 h
  | unmatched h hnone =>
    rw [TypeVerdict.unmatchedItems, List.mem_singleton, Unmatched.type.injEq]
    exact and_congr_right fun _ => (and_iff_left ⟨h, hnone⟩).symm
  | @matched q s h hs =>
    refine iff_of_false ?_ fun h' => h'.2.2.2 s (List.mem_of_getElem? hs.1) hs.2.1
    simp only [TypeVerdict.unmatchedItems, List.mem_filterMap, Prod.exists, not_exists, not_and]
    intro k m v _
    split_ifs <;> simp

theorem method_mem_unmatchedItems_iff {p' : ℕ} :
    .method p' k m ∈ (t.verdict exclusions old).unmatchedItems p t ↔
      p' = p ∧ t.methods[k]? = some m ∧ t.HasClass exclusions old m .unmatched := by
  rw [hasClass_iff_entries (by simp) (by simp)]
  simp only [MethodVerdict.toClass_eq_unmatched_iff, exists_eq_right]
  cases t.verdict exclusions old with
  | excluded => simp [TypeVerdict.unmatchedItems, TypeVerdict.entries]
  | unmatched => simp [TypeVerdict.unmatchedItems, TypeVerdict.entries]
  | matched q verdicts =>
    simp only [TypeVerdict.unmatchedItems, List.mem_filterMap, Prod.exists]
    constructor
    · rintro ⟨k', m', v, hmem, hif⟩
      split_ifs at hif with hunmatched
      cases hif
      exact ⟨rfl, hunmatched ▸ hmem⟩
    · rintro ⟨rfl, hmem⟩
      exact ⟨k, m, _, hmem, if_pos rfl⟩

theorem pairwise_incomparableMethods :
    ((t.verdict exclusions old).incomparableMethods p t).Pairwise
      fun x y => x.place < y.place := by
  rw [TypeVerdict.incomparableMethods, List.pairwise_filterMap]
  refine pairwise_entries.imp ?_
  rintro ⟨i, m, v⟩ ⟨j, n, w⟩ hlt x hx y hy
  cases v with
  | incomparable cause =>
    cases w with
    | incomparable cause' =>
      cases hx
      cases hy
      exact Prod.Lex.toLex_lt_toLex.2 (.inr ⟨rfl, hlt⟩)
    | _ => exact absurd hy (by simp)
  | _ => exact absurd hx (by simp)

theorem pairwise_unmatchedItems :
    ((t.verdict exclusions old).unmatchedItems p t).Pairwise fun x y => x.place < y.place := by
  have hentries : ((t.verdict exclusions old).entries t).Pairwise fun x y => x.1 < y.1 :=
    pairwise_entries
  cases hv : t.verdict exclusions old with
  | excluded => exact .nil
  | unmatched => exact List.pairwise_singleton _ _
  | matched q verdicts =>
    rw [TypeVerdict.unmatchedItems, List.pairwise_filterMap, ← hv]
    refine hentries.imp ?_
    rintro ⟨i, m, v⟩ ⟨j, n, w⟩ hlt x hx y hy
    simp only [Option.ite_none_right_eq_some, Option.some.injEq] at hx hy
    rw [← hx.2, ← hy.2]
    exact Prod.Lex.toLex_lt_toLex.2 (.inr ⟨rfl, hlt⟩)

theorem place_of_mem_unmatchedItems {x : Unmatched}
    (hx : x ∈ (t.verdict exclusions old).unmatchedItems p t) : (ofLex x.place).1 = p := by
  cases x with
  | type p' t' => exact (type_mem_unmatchedItems_iff.1 hx).1
  | method p' k m => exact (method_mem_unmatchedItems_iff.1 hx).1

end TypeDefinition

/-! ### Changed types -/

/-- What is said of a type with changed methods. -/
structure ChangedType.Describes (exclusions : List Exclusion) (old : CompiledUnit) (p : ℕ)
    (t : TypeDefinition) (c : ChangedType) : Prop where
  /-- Its position is that of the type. -/
  newPosition : c.newPosition = p
  /-- Its type is the type. -/
  type : c.type = t
  /-- Its older position is that of the counterpart. -/
  oldPosition : ∃ s, old.Counterpart t c.oldPosition s
  /-- There is a changed method. -/
  methods_ne_nil : c.methods ≠ []
  /-- Its methods are those that have changed. -/
  mem_methods_iff : ∀ x, x ∈ c.methods ↔
    t.methods[x.position]? = some x.method ∧ t.HasClass exclusions old x.method .changed
  /-- They are in order. -/
  methods_ordered : c.methods.Pairwise fun x y => x.position < y.position

namespace TypeDefinition

variable {exclusions : List Exclusion} {old : CompiledUnit} {t : TypeDefinition} {p q k : ℕ}
  {m : MethodDefinition} {c : ChangedType}

/-- The method of an entry, if it has changed. -/
def changedMethod? : ℕ × MethodDefinition × MethodVerdict → Option ChangedMethod :=
  fun (i, m, verdict) =>
    match verdict with
    | .compared body => if body.isChanged then some ⟨i, m⟩ else none
    | _ => none

theorem changedMethod?_eq_some_iff {x : ℕ × MethodDefinition × MethodVerdict} {y : ChangedMethod} :
    changedMethod? x = some y ↔ x.1 = y.position ∧ x.2.1 = y.method ∧ x.2.2.toClass = .changed := by
  obtain ⟨i, m, v⟩ := x
  obtain ⟨j, n⟩ := y
  cases v with
  | compared body =>
    cases body <;> simp [changedMethod?, BodyVerdict.isChanged, MethodVerdict.toClass]
  | _ => simp [changedMethod?, MethodVerdict.toClass]

/-- The methods of a type that have changed. -/
def changedMethods (exclusions : List Exclusion) (old : CompiledUnit) (t : TypeDefinition) :
    List ChangedMethod :=
  ((t.verdict exclusions old).entries t).filterMap changedMethod?

theorem mem_changedMethods_iff {x : ChangedMethod} :
    x ∈ t.changedMethods exclusions old ↔
      t.methods[x.position]? = some x.method ∧ t.HasClass exclusions old x.method .changed := by
  rw [hasClass_iff_entries (by simp) (by simp), changedMethods,
    List.mem_filterMap]
  simp only [changedMethod?_eq_some_iff, Prod.exists]
  constructor
  · rintro ⟨i, m, v, hmem, rfl, rfl, hv⟩
    exact ⟨v, hmem, hv⟩
  · rintro ⟨v, hmem, hv⟩
    exact ⟨_, _, v, hmem, rfl, rfl, hv⟩

theorem pairwise_changedMethods :
    (t.changedMethods exclusions old).Pairwise fun x y => x.position < y.position := by
  rw [changedMethods, List.pairwise_filterMap]
  refine pairwise_entries.imp fun hlt x hx y hy => ?_
  rw [changedMethod?_eq_some_iff] at hx hy
  rw [← hx.1, ← hy.1]
  exact hlt

/-- A type is listed if it has a counterpart and changed methods. -/
theorem changedType?_of_matched {verdicts : List MethodVerdict}
    (hv : t.verdict exclusions old = .matched q verdicts) :
    (t.verdict exclusions old).changedType? p t =
      if (t.changedMethods exclusions old).isEmpty then none
      else some ⟨q, p, t, t.changedMethods exclusions old⟩ := by
  rw [changedMethods, hv]
  rfl

theorem describes_of_changedType? (h : (t.verdict exclusions old).changedType? p t = some c) :
    c.Describes exclusions old p t := by
  have hjudged := judged_verdict exclusions old t
  cases hv : t.verdict exclusions old with
  | excluded =>
    rw [hv] at h
    exact absurd h (by simp [TypeVerdict.changedType?])
  | unmatched =>
    rw [hv] at h
    exact absurd h (by simp [TypeVerdict.changedType?])
  | matched q verdicts =>
    rw [changedType?_of_matched hv] at h
    rw [hv] at hjudged
    split_ifs at h with hempty
    cases h
    cases hjudged with
    | @matched _ s _ hs =>
      exact ⟨rfl, rfl, ⟨s, hs⟩, by simpa using hempty, fun x => mem_changedMethods_iff,
        pairwise_changedMethods⟩

/-- A type with a changed method is listed. -/
theorem exists_changedType? (hk : t.methods[k]? = some m)
    (hm : t.HasClass exclusions old m .changed) (p : ℕ) :
    ∃ c, (t.verdict exclusions old).changedType? p t = some c := by
  have hmem : (⟨k, m⟩ : ChangedMethod) ∈ t.changedMethods exclusions old :=
    mem_changedMethods_iff.2 ⟨hk, hm⟩
  cases hv : t.verdict exclusions old with
  | matched q verdicts =>
    rw [← hv, changedType?_of_matched hv, if_neg (by simpa using List.ne_nil_of_mem hmem)]
    exact ⟨_, rfl⟩
  | _ =>
    rw [changedMethods, hv] at hmem
    exact absurd hmem List.not_mem_nil

end TypeDefinition

/-! ### Exactness -/

namespace UnitDiff

variable (exclusions : List Exclusion) (old new : CompiledUnit)

theorem between_incomparable : (between exclusions old new).incomparable =
    new.types.zipIdx.flatMap fun x => (x.1.verdict exclusions old).incomparableMethods x.2 x.1 :=
  List.flatMap_map ..

theorem between_unmatched : (between exclusions old new).unmatched =
    new.types.zipIdx.flatMap fun x => (x.1.verdict exclusions old).unmatchedItems x.2 x.1 :=
  List.flatMap_map ..

theorem between_changedTypes : (between exclusions old new).changedTypes =
    new.types.zipIdx.filterMap fun x => (x.1.verdict exclusions old).changedType? x.2 x.1 :=
  List.filterMap_map ..

variable {exclusions old new}

theorem mem_incomparable_iff {x : Incomparable} :
    x ∈ (between exclusions old new).incomparable ↔
      ∃ t m, new.HasMethod x.typePosition x.position t m ∧
        t.HasClass exclusions old m (.incomparable x.cause) := by
  rw [between_incomparable, mem_flatMap_zipIdx_iff]
  simp only [TypeDefinition.mem_incomparableMethods_iff]
  constructor
  · rintro ⟨_, t, ht, rfl, m, hm, hclass⟩
    exact ⟨t, m, ⟨ht, hm⟩, hclass⟩
  · rintro ⟨t, m, ⟨ht, hm⟩, hclass⟩
    exact ⟨_, t, ht, rfl, m, hm, hclass⟩

theorem type_mem_unmatched_iff {p : ℕ} {t : TypeDefinition} :
    .type p t ∈ (between exclusions old new).unmatched ↔ new.types[p]? = some t ∧
      ¬Exclusion.Excludes exclusions .type t.fullName ∧
        ∀ s ∈ old.types, s.fullName ≠ t.fullName := by
  rw [between_unmatched, mem_flatMap_zipIdx_iff]
  simp only [TypeDefinition.type_mem_unmatchedItems_iff]
  constructor
  · rintro ⟨_, _, ht, rfl, rfl, h⟩
    exact ⟨ht, h⟩
  · rintro ⟨ht, h⟩
    exact ⟨p, t, ht, rfl, rfl, h⟩

theorem method_mem_unmatched_iff {p k : ℕ} {m : MethodDefinition} :
    .method p k m ∈ (between exclusions old new).unmatched ↔
      ∃ t, new.HasMethod p k t m ∧ t.HasClass exclusions old m .unmatched := by
  rw [between_unmatched, mem_flatMap_zipIdx_iff]
  simp only [TypeDefinition.method_mem_unmatchedItems_iff]
  constructor
  · rintro ⟨_, t, ht, rfl, hm, hclass⟩
    exact ⟨t, ⟨ht, hm⟩, hclass⟩
  · rintro ⟨t, ⟨ht, hm⟩, hclass⟩
    exact ⟨p, t, ht, rfl, hm, hclass⟩

theorem mem_changedTypes_iff {c : ChangedType} :
    c ∈ (between exclusions old new).changedTypes ↔ ∃ p, ∃ t : TypeDefinition,
      new.types[p]? = some t ∧ (t.verdict exclusions old).changedType? p t = some c := by
  rw [between_changedTypes, List.mem_filterMap]
  simp only [Prod.exists, List.mem_zipIdx_iff_getElem?]
  exact exists_comm

theorem pairwise_incomparable : (between exclusions old new).incomparable.Pairwise
    fun x y => x.place < y.place := by
  rw [between_incomparable]
  refine pairwise_flatMap_zipIdx (fun _ => TypeDefinition.pairwise_incomparableMethods) ?_
  intro a b hlt x hx y hy
  rw [TypeDefinition.mem_incomparableMethods_iff] at hx hy
  exact Prod.Lex.toLex_lt_toLex.2 (.inl (by rwa [hx.1, hy.1]))

theorem pairwise_unmatched : (between exclusions old new).unmatched.Pairwise
    fun x y => x.place < y.place := by
  rw [between_unmatched]
  refine pairwise_flatMap_zipIdx (fun _ => TypeDefinition.pairwise_unmatchedItems) ?_
  intro a b hlt x hx y hy
  refine Prod.Lex.lt_iff.2 (.inl ?_)
  rwa [TypeDefinition.place_of_mem_unmatchedItems hx,
    TypeDefinition.place_of_mem_unmatchedItems hy]

theorem pairwise_changedTypes : (between exclusions old new).changedTypes.Pairwise
    fun x y => x.newPosition < y.newPosition := by
  rw [between_changedTypes, List.pairwise_filterMap]
  refine (pairwise_zipIdx new.types).imp fun hlt x hx y hy => ?_
  rwa [(TypeDefinition.describes_of_changedType? hx).newPosition,
    (TypeDefinition.describes_of_changedType? hy).newPosition]

/-- A method is listed with its type if it has changed. -/
theorem exists_changedType_iff {p k : ℕ} {m : MethodDefinition} :
    (∃ c ∈ (between exclusions old new).changedTypes, c.newPosition = p ∧ ⟨k, m⟩ ∈ c.methods) ↔
      ∃ t, new.HasMethod p k t m ∧ t.HasClass exclusions old m .changed := by
  simp only [mem_changedTypes_iff]
  constructor
  · rintro ⟨c, ⟨p', t, ht, hc⟩, rfl, hmem⟩
    have hdescribes := TypeDefinition.describes_of_changedType? hc
    obtain ⟨hm, hclass⟩ := (hdescribes.mem_methods_iff _).1 hmem
    exact ⟨t, ⟨hdescribes.newPosition ▸ ht, hm⟩, hclass⟩
  · rintro ⟨t, ⟨ht, hm⟩, hclass⟩
    obtain ⟨c, hc⟩ := TypeDefinition.exists_changedType? hm hclass p
    have hdescribes := TypeDefinition.describes_of_changedType? hc
    exact ⟨c, ⟨p, t, ht, hc⟩, hdescribes.newPosition,
      (hdescribes.mem_methods_iff _).2 ⟨hm, hclass⟩⟩

/-- Something has changed if a method has. -/
theorem hasChanges_iff : (between exclusions old new).hasChanges = true ↔
    ∃ p k t m, new.HasMethod p k t m ∧ t.HasClass exclusions old m .changed := by
  rw [hasChanges, Bool.not_eq_true', ← Bool.not_eq_true, List.isEmpty_iff]
  constructor
  · intro h
    obtain ⟨c, hc⟩ := List.exists_mem_of_ne_nil _ h
    obtain ⟨p, t, ht, hc'⟩ := mem_changedTypes_iff.1 hc
    have hdescribes := TypeDefinition.describes_of_changedType? hc'
    obtain ⟨⟨k, m⟩, hmem⟩ := List.exists_mem_of_ne_nil _ hdescribes.methods_ne_nil
    obtain ⟨t', hm, hclass⟩ := exists_changedType_iff.1 ⟨c, hc, rfl, hmem⟩
    exact ⟨_, k, t', m, hm, hclass⟩
  · rintro ⟨p, k, t, m, hm, hclass⟩
    obtain ⟨c, hc, -⟩ := exists_changedType_iff.2 ⟨t, hm, hclass⟩
    exact List.ne_nil_of_mem hc

/-- The results hold exactly what has become of the methods of the newer build. -/
structure Exact (exclusions : List Exclusion) (old new : CompiledUnit) (d : UnitDiff) : Prop where
  /-- Every method is in exactly one class. -/
  class_unique : ∀ p k t m, new.HasMethod p k t m → ∃! f, t.HasClass exclusions old m f
  /-- The methods that cannot be compared are listed, with the cause. -/
  incomparable : ∀ x, x ∈ d.incomparable ↔ ∃ t m,
    new.HasMethod x.typePosition x.position t m ∧
      t.HasClass exclusions old m (.incomparable x.cause)
  /-- They are listed once and in order. -/
  incomparable_ordered : d.incomparable.Pairwise fun x y => x.place < y.place
  /-- The types without counterpart are listed. -/
  unmatched_type : ∀ p t, .type p t ∈ d.unmatched ↔ new.types[p]? = some t ∧
    ¬Exclusion.Excludes exclusions .type t.fullName ∧ ∀ s ∈ old.types, s.fullName ≠ t.fullName
  /-- The methods without counterpart are listed. -/
  unmatched_method : ∀ p k m, .method p k m ∈ d.unmatched ↔
    ∃ t, new.HasMethod p k t m ∧ t.HasClass exclusions old m .unmatched
  /-- Both are listed once and in order. -/
  unmatched_ordered : d.unmatched.Pairwise fun x y => x.place < y.place
  /-- The methods that have changed are listed with their types. -/
  changed : ∀ p k m, (∃ c ∈ d.changedTypes, c.newPosition = p ∧ ⟨k, m⟩ ∈ c.methods) ↔
    ∃ t, new.HasMethod p k t m ∧ t.HasClass exclusions old m .changed
  /-- A type that is listed has changed methods. -/
  changedTypes : ∀ c ∈ d.changedTypes, ∃ p t, new.types[p]? = some t ∧
    c.Describes exclusions old p t
  /-- The types are listed once and in order. -/
  changedTypes_ordered : d.changedTypes.Pairwise fun x y => x.newPosition < y.newPosition
  /-- There are changes if a method has changed. -/
  hasChanges : d.hasChanges = true ↔
    ∃ p k t m, new.HasMethod p k t m ∧ t.HasClass exclusions old m .changed

/-- Comparing units is exact. If the full names of the older build are distinct, the counterpart of
a type is the type of its full name. -/
theorem between_exact (exclusions : List Exclusion) (old new : CompiledUnit) :
    (between exclusions old new).Exact exclusions old new ∧
      ((old.types.map TypeDefinition.fullName).Nodup → ∀ t q s,
        old.Counterpart t q s ↔ old.types[q]? = some s ∧ s.fullName = t.fullName) where
  left := {
    class_unique _ _ t m _ := t.existsUnique_hasClass exclusions old m
    incomparable _ := mem_incomparable_iff
    incomparable_ordered := pairwise_incomparable
    unmatched_type _ _ := type_mem_unmatched_iff
    unmatched_method _ _ _ := method_mem_unmatched_iff
    unmatched_ordered := pairwise_unmatched
    changed _ _ _ := exists_changedType_iff
    changedTypes _ hc := by
      obtain ⟨p, t, ht, hc⟩ := mem_changedTypes_iff.1 hc
      exact ⟨p, t, ht, TypeDefinition.describes_of_changedType? hc⟩
    changedTypes_ordered := pairwise_changedTypes
    hasChanges := hasChanges_iff }
  right h _ _ _ := CompiledUnit.counterpart_iff_of_nodup h

/-- A method of the example. -/
def sampleMethod (name : String) (body : Body) : MethodDefinition where
  declaringType := ⟨"N", "C", false⟩
  name := name
  operations := body

/-- A type of the example. -/
def sampleType (name : String) (methods : List MethodDefinition) : TypeDefinition where
  space := "N"
  name := name
  methods := methods

/-- A method whose operations are out of order. -/
def disordered (name : String) : MethodDefinition :=
  sampleMethod name [⟨1, .pop, .none⟩, ⟨0, .ret, .none⟩]

/-- The older build of the example. -/
def sampleOld : CompiledUnit where
  name := "u"
  types := [sampleType "C" [sampleMethod "f" [], sampleMethod "g" [], disordered "k"],
    sampleType "D" []]

/-- A type of the newer build with a counterpart: one of its methods has changed, one is new, one
is the same, and one is malformed. -/
def sampleMatched : TypeDefinition :=
  sampleType "C" [sampleMethod "g" [⟨0, .ret, .none⟩], sampleMethod "h" [], sampleMethod "f" [],
    disordered "k"]

/-- A type of the newer build without counterpart. -/
def sampleAdded : TypeDefinition :=
  sampleType "E" [sampleMethod "f" []]

/-- The newer build of the example. -/
def sampleNew : CompiledUnit where
  name := "u"
  types := [sampleAdded, sampleMatched]

/-- An exclusion for the type without counterpart. -/
def typeExclusion : Exclusion :=
  ⟨.type, "N.E", .exact, .exact "N.E", rfl⟩

/-- An exclusion for the method that is the same. -/
def sameExclusion : Exclusion :=
  ⟨.method, "f", .exact, .exact "f", rfl⟩

theorem between_exact_sample :
    let exclusions := [typeExclusion, sameExclusion]
    let cause : Malformation := .part "N.C::k" (.offsetsNotIncreasing 1 0)
    let d := between exclusions sampleOld sampleNew
    (sampleOld.types.map TypeDefinition.fullName).Nodup ∧ d.Exact exclusions sampleOld sampleNew ∧
    (∀ t q s, sampleOld.Counterpart t q s ↔
      sampleOld.types[q]? = some s ∧ s.fullName = t.fullName) ∧
    (∀ f, sampleAdded.HasClass exclusions sampleOld (sampleMethod "f" []) f ↔ f = .typeExcluded) ∧
    (∀ f, sampleMatched.HasClass exclusions sampleOld (sampleMethod "f" []) f ↔ f = .excluded) ∧
    d.incomparable = [⟨1, 3, cause⟩] ∧
    sampleMatched.HasClass exclusions sampleOld (disordered "k") (.incomparable cause) := by
  intro exclusions cause d
  have hnodup : (sampleOld.types.map TypeDefinition.fullName).Nodup := by decide
  obtain ⟨hexact, hcounterpart⟩ := between_exact exclusions sampleOld sampleNew
  have hclass {p k : ℕ} {t : TypeDefinition} {m : MethodDefinition} {f : MethodClass}
      (hm : sampleNew.HasMethod p k t m) (hf : t.HasClass exclusions sampleOld m f)
      (g : MethodClass) : t.HasClass exclusions sampleOld m g ↔ g = f :=
    ⟨fun hg => (hexact.class_unique p k t m hm).unique hg hf, fun h => h ▸ hf⟩
  have hadded : sampleNew.HasMethod 0 0 sampleAdded (sampleMethod "f" []) := ⟨rfl, rfl⟩
  have hsame : sampleNew.HasMethod 1 2 sampleMatched (sampleMethod "f" []) := ⟨rfl, rfl⟩
  have hmalformed : sampleNew.HasMethod 1 3 sampleMatched (disordered "k") := ⟨rfl, rfl⟩
  have hc := (hcounterpart hnodup sampleMatched 0 _).2 ⟨rfl, rfl⟩
  have hincomparable : d.incomparable = [⟨1, 3, cause⟩] := by decide
  refine ⟨hnodup, hexact, hcounterpart hnodup, hclass hadded (.typeExcluded (by decide)),
    hclass hsame (.ofMethod (by decide) hc (.excluded (by decide))), hincomparable, ?_⟩
  obtain ⟨t, m, hm, hf⟩ := (hexact.incomparable ⟨1, 3, cause⟩).1
    (hincomparable ▸ List.mem_cons_self)
  obtain ⟨rfl, rfl⟩ := hm.unique hmalformed
  exact hf

example : (between [] sampleOld sampleNew).unmatched =
    [.type 0 sampleAdded, .method 1 1 (sampleMethod "h" [])] := by
  decide

end UnitDiff

end BuildDrift
