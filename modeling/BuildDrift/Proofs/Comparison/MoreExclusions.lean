import BuildDrift.Proofs.Comparison.Unit
import Mathlib.Data.List.Flatten

/-!
# More exclusions

Further exclusions remove what they match from the results of a comparison, and nothing else. The
counterparts of types and methods do not depend on exclusions, and neither does what the bodies are
found to be, so the verdict on a method is either the one it had or that it is left out. Results
keep their places in the newer build and their order; a type of which no changed method is left is
dropped.

## Main definitions

* `ChangedType.narrow?`, `Unmatched.remains`, `Incomparable.remains`: what exclusions leave of a
  result.
* `UnitDiff.Narrowed`: results from which exclusions have removed what they match.

## Main results

* `MethodDefinition.verdict_append`, `TypeDefinition.verdict_append`: the verdicts under more
  exclusions.
* `TypeDefinition.filterMap_entries_append`: what is listed for the methods that remain.
* `UnitDiff.between_append`: more exclusions narrow the results of a comparison.
-/

namespace BuildDrift

/-! ### What exclusions remove -/

/-- What exclusions leave of a type with changed methods, if some of the methods remain. -/
def ChangedType.narrow? (exclusions : List Exclusion) (c : ChangedType) : Option ChangedType :=
  let methods := c.methods.filter fun x => Exclusion.Spares exclusions c.type x.method
  if methods.isEmpty then none else some { c with methods }

/-- Whether exclusions leave an item without counterpart of a newer build. -/
def Unmatched.remains (exclusions : List Exclusion) (new : CompiledUnit) : Unmatched → Bool
  | type _ t => ¬Exclusion.Excludes exclusions .type t.fullName
  | method p _ m => new.types[p]?.all fun t => Exclusion.Spares exclusions t m

/-- Whether exclusions leave a method of a newer build that cannot be compared. -/
def Incomparable.remains (exclusions : List Exclusion) (new : CompiledUnit) (x : Incomparable) :
    Bool :=
  new.types[x.typePosition]?.all fun t =>
    t.methods[x.position]?.all fun m => Exclusion.Spares exclusions t m

/-- Results from which exclusions have removed what they match. -/
structure UnitDiff.Narrowed (exclusions : List Exclusion) (new : CompiledUnit) (d d' : UnitDiff) :
    Prop where
  /-- Methods are removed from changed types, and types of which no method remains. -/
  changedTypes : d'.changedTypes = d.changedTypes.filterMap (ChangedType.narrow? exclusions)
  /-- Types without counterpart are removed by full name, methods by name or with their types. -/
  unmatched : d'.unmatched = d.unmatched.filter (Unmatched.remains exclusions new)
  /-- Methods that cannot be compared are removed by name or with their types. -/
  incomparable : d'.incomparable = d.incomparable.filter (Incomparable.remains exclusions new)
  /-- Nothing more is noted. -/
  logs : d'.logs.Sublist d.logs

/-- A filter of what is picked from a list is a filter of the list. -/
theorem filter_filterMap_of_forall {α β : Type*} {f : α → Option β} {p : α → Bool} {q : β → Bool}
    {l : List α} (h : ∀ a ∈ l, ∀ b, f a = some b → q b = p a) :
    (l.filterMap f).filter q = (l.filter p).filterMap f := by
  rw [List.filter_filterMap, List.filterMap_filter]
  refine List.filterMap_congr fun a ha => ?_
  cases hb : f a with
  | none => simp
  | some b => simp [h a ha b hb, Option.filter]

/-! ### Verdicts under more exclusions -/

namespace Exclusion

variable {T S : List Exclusion} {kind : ItemKind} {name : String}

theorem anyCovers_append :
    anyCovers (T ++ S) kind name = (anyCovers T kind name || anyCovers S kind name) :=
  List.any_append

theorem anyCovers_append_of_excludes (h : Excludes S kind name) :
    anyCovers (T ++ S) kind name = true := by
  rw [anyCovers_append, anyCovers_iff.2 h, Bool.or_true]

theorem anyCovers_append_of_not (h : ¬Excludes S kind name) :
    anyCovers (T ++ S) kind name = anyCovers T kind name := by
  rw [anyCovers_append, Bool.eq_false_iff.2 (mt anyCovers_iff.1 h), Bool.or_false]

/-- What is left out depends on which exclusions there are, not on their order or number. -/
theorem anyCovers_congr (h : ∀ e, e ∈ T ↔ e ∈ S) : anyCovers T = anyCovers S := by
  funext kind name
  rw [Bool.eq_iff_iff, anyCovers_iff, anyCovers_iff]
  exact exists_congr fun e => and_congr_left' (h e)

end Exclusion

variable {T S : List Exclusion}

/-- Under more exclusions, a method is left out or its verdict is the same. -/
theorem MethodDefinition.verdict_append (old : TypeDefinition) (m : MethodDefinition) :
    m.verdict (T ++ S) old =
      if Exclusion.Excludes S .method m.name then .excluded else m.verdict T old := by
  split_ifs with h
  · rw [verdict, if_pos (Exclusion.anyCovers_append_of_excludes h)]
  · rw [verdict, Exclusion.anyCovers_append_of_not h, ← verdict]

namespace TypeDefinition

variable {old new : CompiledUnit} {t : TypeDefinition} {p : ℕ}

/-- Under more exclusions, a type is left out, or it has the same counterpart and more of its
methods are left out. -/
theorem verdict_append (T S : List Exclusion) (old : CompiledUnit) (t : TypeDefinition) :
    t.verdict (T ++ S) old =
      if Exclusion.Excludes S .type t.fullName then .excluded
      else
        match t.verdict T old with
        | .matched q verdicts => .matched q <| List.zipWith
            (fun m v => if Exclusion.Spares S t m then v else .excluded) t.methods verdicts
        | v => v := by
  split_ifs with h
  · rw [verdict, if_pos (Exclusion.anyCovers_append_of_excludes h)]
  · have hspares (m : MethodDefinition) :
        Exclusion.Spares S t m ↔ ¬Exclusion.Excludes S .method m.name := and_iff_right h
    rw [verdict, verdict, Exclusion.anyCovers_append_of_not h]
    cases Exclusion.anyCovers T .type t.fullName with
    | true => rfl
    | false =>
      cases old.lastTypeNamed? t.fullName with
      | none => rfl
      | some s => simp [MethodDefinition.verdict_append, List.zipWith_map_right, hspares]

/-- More exclusions leave the methods that they do not match in their places. -/
theorem entries_append (h : ¬Exclusion.Excludes S .type t.fullName) :
    (t.verdict (T ++ S) old).entries t = ((t.verdict T old).entries t).map fun x =>
      (x.1, x.2.1, if Exclusion.Spares S t x.2.1 then x.2.2 else .excluded) := by
  rw [verdict_append, if_neg h]
  cases t.verdict T old with
  | excluded => rfl
  | unmatched => rfl
  | matched q verdicts =>
    have hzip : t.methods.zip (List.zipWith
          (fun m v => if Exclusion.Spares S t m then v else .excluded) t.methods verdicts) =
        (t.methods.zip verdicts).map fun x =>
          (x.1, if Exclusion.Spares S t x.1 then x.2 else .excluded) := by
      rw [List.zip_eq_zipWith, List.zipWith_zipWith_right, List.zipWith3_same_left,
        List.map_zip_eq_zipWith]
      rfl
    simp only [TypeVerdict.entries, hzip, List.zipIdx_map, List.map_map]
    rfl

/-- What is listed for methods that are not left out is listed for those that remain. -/
theorem filterMap_entries_append {β : Type*} {f : ℕ × MethodDefinition × MethodVerdict → Option β}
    (hf : ∀ i m, f (i, m, .excluded) = none) :
    ((t.verdict (T ++ S) old).entries t).filterMap f =
      (((t.verdict T old).entries t).filter fun x => Exclusion.Spares S t x.2.1).filterMap f := by
  by_cases h : Exclusion.Excludes S .type t.fullName
  · have hspares (m : MethodDefinition) : ¬Exclusion.Spares S t m := fun hm => hm.1 h
    simp only [verdict_append, h, if_true, TypeVerdict.entries, hspares, decide_false,
      List.filter_false]
  · rw [entries_append h, List.filterMap_map, List.filterMap_filter]
    refine List.filterMap_congr fun x _ => ?_
    by_cases hx : Exclusion.Spares S t x.2.1
    · simp [hx]
    · simp [hx, hf]

theorem changedMethods_append : t.changedMethods (T ++ S) old =
    (t.changedMethods T old).filter fun x => Exclusion.Spares S t x.method := by
  rw [changedMethods, filterMap_entries_append fun _ _ => rfl, changedMethods]
  refine (filter_filterMap_of_forall fun x _ y hy => ?_).symm
  rw [(changedMethod?_eq_some_iff.1 hy).2.1]

/-- A changed type keeps its position in the older build, and the methods that remain. -/
theorem changedType?_append : (t.verdict (T ++ S) old).changedType? p t =
    ((t.verdict T old).changedType? p t).bind (ChangedType.narrow? S) := by
  cases hv : t.verdict T old with
  | matched q verdicts =>
    have hchanged : (t.verdict (T ++ S) old).changedType? p t =
        if (t.changedMethods (T ++ S) old).isEmpty then none
        else some ⟨q, p, t, t.changedMethods (T ++ S) old⟩ := by
      rw [changedMethods, verdict_append, hv]
      by_cases h : Exclusion.Excludes S .type t.fullName
      · rw [if_pos h]
        rfl
      · rw [if_neg h]
        rfl
    rw [hchanged, changedMethods_append, ← hv, changedType?_of_matched hv]
    cases t.changedMethods T old with
    | nil => rfl
    | cons x methods => rfl
  | _ =>
    rw [verdict_append, hv]
    split_ifs <;> rfl

theorem unmatchedItems_append (hp : new.types[p]? = some t) :
    (t.verdict (T ++ S) old).unmatchedItems p t =
      ((t.verdict T old).unmatchedItems p t).filter (Unmatched.remains S new) := by
  cases hv : t.verdict T old with
  | matched q verdicts =>
    have hitems : (t.verdict (T ++ S) old).unmatchedItems p t =
        ((t.verdict (T ++ S) old).entries t).filterMap fun x =>
          if x.2.2 = .unmatched then some (.method p x.1 x.2.1) else none := by
      rw [verdict_append, hv]
      split_ifs <;> rfl
    rw [hitems, filterMap_entries_append fun _ _ => rfl, hv, TypeVerdict.unmatchedItems]
    refine (filter_filterMap_of_forall fun x _ y hy => ?_).symm
    rw [Option.ite_none_right_eq_some, Option.some.injEq] at hy
    rw [← hy.2, Unmatched.remains, hp, Option.all_some]
  | unmatched =>
    rw [verdict_append, hv]
    split_ifs with h <;> simp [TypeVerdict.unmatchedItems, Unmatched.remains, h]
  | excluded =>
    rw [verdict_append, hv]
    split_ifs <;> rfl

theorem incomparableMethods_append (hp : new.types[p]? = some t) :
    (t.verdict (T ++ S) old).incomparableMethods p t =
      ((t.verdict T old).incomparableMethods p t).filter (Incomparable.remains S new) := by
  rw [TypeVerdict.incomparableMethods, filterMap_entries_append fun _ _ => rfl]
  refine (filter_filterMap_of_forall ?_).symm
  rintro ⟨i, m, v⟩ hmem y hy
  cases v with
  | incomparable cause =>
    cases hy
    simp only [Incomparable.remains, hp, Option.all_some, (mem_entries_iff.1 hmem).1]
  | _ => exact absurd hy (by simp)

/-- Nothing new is noted. -/
theorem logs_append : ((t.verdict (T ++ S) old).logs t).Sublist ((t.verdict T old).logs t) := by
  rw [TypeVerdict.logs, filterMap_entries_append fun _ _ => rfl]
  exact List.filter_sublist.filterMap _

end TypeDefinition

namespace UnitDiff

variable (old new : CompiledUnit)

theorem between_logs (exclusions : List Exclusion) : (between exclusions old new).logs =
    new.types.zipIdx.flatMap fun x => (x.1.verdict exclusions old).logs x.1 :=
  List.flatMap_map ..

/-- The results of a comparison are narrowed type by type. -/
theorem narrowed_between_append :
    (between T old new).Narrowed S new (between (T ++ S) old new) where
  changedTypes := by
    simp only [between_changedTypes, List.filterMap_filterMap, TypeDefinition.changedType?_append]
  unmatched := by
    rw [between_unmatched, between_unmatched, List.filter_flatMap]
    exact List.flatMap_congr fun x hx =>
      TypeDefinition.unmatchedItems_append (List.mem_zipIdx_iff_getElem?.1 hx)
  incomparable := by
    rw [between_incomparable, between_incomparable, List.filter_flatMap]
    exact List.flatMap_congr fun x hx =>
      TypeDefinition.incomparableMethods_append (List.mem_zipIdx_iff_getElem?.1 hx)
  logs := by
    rw [between_logs, between_logs]
    exact List.Sublist.flatMap_right _ fun x _ => TypeDefinition.logs_append

/-- What is compared depends on which exclusions there are, not on their order or number. -/
theorem between_congr (h : ∀ e, e ∈ T ↔ e ∈ S) : between T old new = between S old new := by
  have hcovers := Exclusion.anyCovers_congr h
  have hmethod : MethodDefinition.verdict T = MethodDefinition.verdict S := by
    funext s m
    simp only [MethodDefinition.verdict, hcovers]
  have htype : TypeDefinition.verdict T = TypeDefinition.verdict S := by
    funext s t
    simp only [TypeDefinition.verdict, hcovers, hmethod]
  simp only [between, htype]

/-- More exclusions remove the types and methods that they match from the results of a comparison,
and change nothing else. The order of exclusions, and how often one is repeated, do not matter. -/
theorem between_append (T S : List Exclusion) (old new : CompiledUnit) :
    (between T old new).Narrowed S new (between (T ++ S) old new) ∧
      ∀ U U' : List Exclusion, (∀ e, e ∈ U ↔ e ∈ U') → between U old new = between U' old new :=
  ⟨narrowed_between_append old new, fun _ _ => between_congr old new⟩

/-- An exclusion for the method of the example that has changed. -/
def methodExclusion : Exclusion :=
  ⟨.method, "g", .exact, .exact "g", rfl⟩

theorem between_append_sample :
    (∀ e, e ∈ [typeExclusion, methodExclusion] ↔
      e ∈ [methodExclusion, typeExclusion, methodExclusion]) ∧
    (between [typeExclusion] sampleOld sampleNew).changedTypes ≠ [] ∧
    (between ([typeExclusion] ++ [methodExclusion]) sampleOld sampleNew).changedTypes = [] ∧
    between [typeExclusion, methodExclusion] sampleOld sampleNew =
      between [methodExclusion, typeExclusion, methodExclusion] sampleOld sampleNew := by
  obtain ⟨hnarrowed, hcongr⟩ := between_append [typeExclusion] [methodExclusion] sampleOld sampleNew
  have hmem : ∀ e, e ∈ [typeExclusion, methodExclusion] ↔
      e ∈ [methodExclusion, typeExclusion, methodExclusion] := by
    simp [or_comm]
  refine ⟨hmem, by decide, ?_, hcongr _ _ hmem⟩
  rw [hnarrowed.changedTypes]
  decide

end UnitDiff

end BuildDrift
