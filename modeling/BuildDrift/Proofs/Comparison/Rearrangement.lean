import BuildDrift.Proofs.Comparison.Matched
import BuildDrift.Proofs.Comparison.Relocation
import Mathlib.Data.List.Perm.Basic
import Mathlib.Tactic.IntervalCases

/-!
# Rearranged builds are the same

A unit is rearranged by putting its types, and the methods of its types, into another order, and by
moving bodies to other offsets. If full names are distinct, and so are the names and signatures of
the methods of a type, then items find their counterparts wherever they stand. A moved body is
identical, and it is as valid as before. So neither build differs from the other.

## Main definitions

* `Rearranges`: a list with its elements replaced by related ones and put into another order.
* `MethodDefinition.Moved`: a method with its body moved.
* `TypeDefinition.Rearranged`, `CompiledUnit.Rearranged`: types and units that are rearranged.

## Main results

* `MethodDefinition.Moved.toMatches`: a moved method is as valid, with an identical body.
* `CompiledUnit.Rearranged.toMatches`: a rearranged unit matches.
* `UnitDiff.between_rearranged`: what is reported of rearranged units.
-/

namespace BuildDrift

/-! ### Rearranged lists -/

section Lists

variable {α β γ : Type*} {R : α → β → Prop} {l : List α} {l' : List β}

/-- A list holds the elements of another one, replaced by related ones, in some order. -/
def Rearranges (R : α → β → Prop) : List α → List β → Prop :=
  Relation.Comp (List.Forall₂ R) List.Perm

namespace Rearranges

theorem exists_mem (h : Rearranges R l l') {b : β} (hb : b ∈ l') : ∃ a ∈ l, R a b := by
  obtain ⟨w, hw, hperm⟩ := h
  -- the order does not matter, so the induction is on the elements one by one
  rw [← hperm.mem_iff] at hb
  clear hperm
  induction hw with
  | nil => exact absurd hb List.not_mem_nil
  | cons hab _ ih =>
    rcases List.mem_cons.1 hb with rfl | hb
    · exact ⟨_, List.mem_cons_self, hab⟩
    · obtain ⟨a, ha, hr⟩ := ih hb
      exact ⟨a, List.mem_cons_of_mem _ ha, hr⟩

/-- What related elements agree in is rearranged only. -/
theorem map_perm {f : α → γ} {g : β → γ} (h : Rearranges R l l')
    (hfg : ∀ a b, R a b → f a = g b) : (l.map f).Perm (l'.map g) := by
  obtain ⟨w, hw, hperm⟩ := h
  have hmap : l.map f = w.map g := by
    rw [← List.forall₂_eq_eq_eq, List.forall₂_map_left_iff, List.forall₂_map_right_iff]
    exact hw.imp hfg
  rw [hmap]
  exact hperm.map g

theorem symm {R : α → α → Prop} {l l' : List α} (hR : ∀ a b, R a b → R b a)
    (h : Rearranges R l l') : Rearranges R l' l := by
  obtain ⟨w, hw, hperm⟩ := h
  -- backwards the list is reordered first, and its elements are replaced afterwards
  exact List.perm_comp_forall₂ hperm.symm (List.Forall₂.flip (hw.imp hR))

end Rearranges

end Lists

/-! ### Moved methods -/

/-- A method with its body moved to other offsets. The regions may be moved too, as long as they
are found to be in order, or not, as they were. -/
structure MethodDefinition.Moved (m m' : MethodDefinition) : Prop where
  rest : { m with operations := [], regions := [] } = { m' with operations := [], regions := [] }
  body : m.operations.Moved m'.operations
  regions : m.validateRegions = m'.validateRegions

theorem Body.Proper.checkOrder_eq {body : Body} (h : body.Proper) :
    body.checkOrder = .ok () :=
  (checkOrder_eq_ok_iff body).2 h.ordered

theorem MethodDefinition.validateEnd_of_proper {m : MethodDefinition} (h : m.operations.Proper) :
    m.validateEnd = .ok () := by
  have hends := h.ends
  rw [validateEnd]
  rw [Body.codeEnd?] at hends
  cases hlast : m.operations.getLast? with
  | none => rfl
  | some last =>
    rw [hlast] at hends
    exact if_pos hends

namespace MethodDefinition.Moved

variable {m m' : MethodDefinition}

theorem symm (h : m.Moved m') : m'.Moved m where
  rest := h.rest.symm
  body := h.body.symm
  regions := h.regions.symm

theorem name_eq (h : m.Moved m') : m.name = m'.name := by
  have hrest := congrArg MethodDefinition.name h.rest
  exact hrest

theorem signature_eq (h : m.Moved m') : m.signature = m'.signature := by
  have hrest := congrArg MethodDefinition.signature h.rest
  exact hrest

theorem validate_eq (h : m.Moved m') : m.validate = m'.validate := by
  have hlocals : m.validateLocals = m'.validateLocals := by
    have hrest := congrArg MethodDefinition.validateLocals h.rest
    exact hrest
  simp only [validate, h.body.old_proper.checkOrder_eq, h.body.new_proper.checkOrder_eq,
    validateEnd_of_proper h.body.old_proper, validateEnd_of_proper h.body.new_proper,
    h.regions, hlocals]
  rfl

theorem toMatches (h : m.Moved m') : m.Matches m' where
  validate := h.validate_eq
  identical := h.body.compare_eq

end MethodDefinition.Moved

/-! ### Rearranged types and units -/

/-- A method is the same or is moved. -/
def MethodDefinition.MovedOrSame (m m' : MethodDefinition) : Prop :=
  m = m' ∨ m.Moved m'

/-- A type with its methods in another order, some of them moved. -/
structure TypeDefinition.Rearranged (t t' : TypeDefinition) : Prop where
  rest : { t with methods := [] } = { t' with methods := [] }
  methods : Rearranges MethodDefinition.MovedOrSame t.methods t'.methods

/-- A unit with its types rearranged and in another order. -/
structure CompiledUnit.Rearranged (u v : CompiledUnit) : Prop where
  name : u.name = v.name
  types : Rearranges TypeDefinition.Rearranged u.types v.types

namespace MethodDefinition.MovedOrSame

variable {m m' : MethodDefinition}

theorem symm (h : m.MovedOrSame m') : m'.MovedOrSame m :=
  h.imp Eq.symm Moved.symm

theorem name_signature_eq (h : m.MovedOrSame m') :
    (m.name, m.signature) = (m'.name, m'.signature) := by
  rcases h with rfl | h
  · rfl
  · exact Prod.ext h.name_eq h.signature_eq

theorem toMatches (h : m.MovedOrSame m') : m.Matches m' := by
  rcases h with rfl | h
  · exact ⟨rfl, Body.compare_self _⟩
  · exact h.toMatches

end MethodDefinition.MovedOrSame

namespace TypeDefinition.Rearranged

variable {t t' : TypeDefinition}

theorem symm (h : t.Rearranged t') : t'.Rearranged t where
  rest := h.rest.symm
  methods := h.methods.symm fun _ _ => MethodDefinition.MovedOrSame.symm

theorem fullName_eq (h : t.Rearranged t') : t.fullName = t'.fullName := by
  have hrest := congrArg TypeDefinition.fullName h.rest
  exact hrest

theorem nodup_name_signature (h : t.Rearranged t')
    (hnodup : (t.methods.map fun m => (m.name, m.signature)).Nodup) :
    (t'.methods.map fun m => (m.name, m.signature)).Nodup :=
  (h.methods.map_perm fun _ _ => MethodDefinition.MovedOrSame.name_signature_eq).nodup_iff.1 hnodup

/-- Every method of a rearranged type has a counterpart that matches it. -/
theorem exists_counterpart (h : t.Rearranged t')
    (hnodup : (t.methods.map fun m => (m.name, m.signature)).Nodup) {m' : MethodDefinition}
    (hm' : m' ∈ t'.methods) : ∃ k m, t.Counterpart m' k m ∧ m.Matches m' := by
  obtain ⟨m, hm, hmoved⟩ := h.methods.exists_mem hm'
  obtain ⟨hname, hsignature⟩ := Prod.mk.inj hmoved.name_signature_eq
  obtain ⟨k, hk⟩ := TypeDefinition.exists_counterpart hnodup hm hname hsignature
  exact ⟨k, m, hk, hmoved.toMatches⟩

end TypeDefinition.Rearranged

namespace CompiledUnit

/-- Types of different full names, each with methods of different names or signatures. -/
structure Distinct (u : CompiledUnit) : Prop where
  types : (u.types.map TypeDefinition.fullName).Nodup
  methods : ∀ t ∈ u.types, (t.methods.map fun m => (m.name, m.signature)).Nodup

namespace Rearranged

variable {u v : CompiledUnit}

theorem symm (h : u.Rearranged v) : v.Rearranged u where
  name := h.name.symm
  types := h.types.symm fun _ _ => TypeDefinition.Rearranged.symm

theorem distinct (h : u.Rearranged v) (hu : u.Distinct) : v.Distinct where
  types := (h.types.map_perm fun _ _ => TypeDefinition.Rearranged.fullName_eq).nodup_iff.1 hu.types
  methods t' ht' := by
    obtain ⟨t, ht, hrearranged⟩ := h.types.exists_mem ht'
    exact hrearranged.nodup_name_signature (hu.methods t ht)

theorem toMatches (h : u.Rearranged v) (hu : u.Distinct) : u.Matches v := by
  intro t' ht'
  obtain ⟨t, ht, hrearranged⟩ := h.types.exists_mem ht'
  obtain ⟨q, hq⟩ := List.mem_iff_getElem?.1 ht
  exact ⟨q, t, (counterpart_iff_of_nodup hu.types).2 ⟨hq, hrearranged.fullName_eq⟩,
    fun m' hm' => hrearranged.exists_counterpart (hu.methods t ht) hm'⟩

end Rearranged

end CompiledUnit

namespace UnitDiff

/-- Whichever of two rearranged builds is the older one, nothing has changed and nothing is without
counterpart; only malformed methods are listed. -/
theorem between_rearranged (exclusions : List Exclusion) {u v : CompiledUnit} (hu : u.Distinct)
    (h : u.Rearranged v) : (between exclusions u v).Uneventful exclusions v ∧
      (between exclusions v u).Uneventful exclusions u :=
  ⟨(h.toMatches hu).uneventful exclusions, (h.symm.toMatches (h.distinct hu)).uneventful exclusions⟩

/-- A body that goes to its end or back to its start, with a space between its two operations. -/
def spaced (spacing : Offset) : Body :=
  [⟨0, .branch 0x3A, .target (spacing + 5)⟩, ⟨spacing, .leave, .target 0⟩]

/-- A unit of two types. -/
def arranged : CompiledUnit where
  name := "u"
  types := [sampleType "C" [sampleMethod "f" (spaced 5), disordered "g"], sampleType "D" []]

/-- The same unit in another order, and with a body moved. -/
def rearranged : CompiledUnit where
  name := "u"
  types := [sampleType "D" [], sampleType "C" [disordered "g", sampleMethod "f" (spaced 7)]]

theorem moved_spaced : (spaced 5).Moved (spaced 7) where
  old_proper := ⟨(Body.checkOrder_eq_ok_iff _).1 (by rfl), by rfl⟩
  new_proper := ⟨(Body.checkOrder_eq_ok_iff _).1 (by rfl), by rfl⟩
  length := rfl
  kind k o p ho hp := by
    have hk : k < 2 := (List.getElem?_eq_some_iff.1 ho).1
    interval_cases k <;> cases ho <;> cases hp <;> rfl
  operand k o p ho hp := by
    have hk : k < 2 := (List.getElem?_eq_some_iff.1 ho).1
    interval_cases k <;> cases ho <;> cases hp
    · exact .codeEnd (by rfl) (by rfl)
    · exact .operation (k := 0) ⟨_, rfl, rfl⟩ ⟨_, rfl, rfl⟩

theorem between_arranged : arranged.Distinct ∧ arranged.Rearranged rearranged ∧
    (between [] arranged rearranged).Uneventful [] rearranged ∧
    (between [] rearranged arranged).Uneventful [] arranged := by
  have hdistinct : arranged.Distinct := ⟨by decide, by decide⟩
  have hmoved : (sampleMethod "f" (spaced 5)).Moved (sampleMethod "f" (spaced 7)) :=
    ⟨rfl, moved_spaced, rfl⟩
  have htype : (sampleType "C" [sampleMethod "f" (spaced 5), disordered "g"]).Rearranged
      (sampleType "C" [disordered "g", sampleMethod "f" (spaced 7)]) :=
    ⟨rfl, _, .cons (.inr hmoved) (.cons (.inl rfl) .nil), .swap _ _ _⟩
  have hrest : (sampleType "D" []).Rearranged (sampleType "D" []) := ⟨rfl, _, .nil, .nil⟩
  have hunits : arranged.Rearranged rearranged :=
    ⟨rfl, _, .cons htype (.cons hrest .nil), .swap _ _ _⟩
  exact ⟨hdistinct, hunits, between_rearranged [] hdistinct hunits⟩

end UnitDiff

end BuildDrift
