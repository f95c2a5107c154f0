import BuildDrift.Proofs.Json.FloatNumerals
import BuildDrift.Proofs.Model.RoundTrip

/-!
# Floating point constants in documents

A floating point constant that is finite is written as a numeral, and the numeral is read as some
floating point number. One that is an infinity or not a number is written as no value, which is
refused where a number is asked for. So the document of a unit is read if all its floating point
constants are finite, and then nothing else of the unit is changed; and if one of them is not
finite, the unit is written all the same, but its document is refused.

## Main definitions

* `Binary64.reread`: what the numeral of a finite number is read as.
* `CompiledUnit.floatsFinite`: all floating point constants of a unit are finite.
* `CompiledUnit.mapFloats`: a unit with other floating point constants.

## Main results

* `CompiledUnit.fromJson_toJson_mapFloats`: what the document of a unit is read as.
* `CompiledUnit.fromJson_toJson_notANumber`: a unit whose document is refused.
-/

namespace BuildDrift

open Json

/-! ### Constants -/

/-- The fault of no value where a floating point number is asked for. -/
def noNumber : Fault :=
  .mismatch "invalid type: null, expected f64"

/-- What is read if it holds only floating point constants that are finite. -/
def readable {α : Type} (finite : Bool) (x : α) : Except Fault α :=
  if finite then .ok x else .error noNumber

theorem map_readable {α β : Type} (make : α → β) (finite : Bool) (x : α) :
    (readable finite x).map make = readable finite (make x) := by
  cases finite <;> rfl

/-- A list is read if all of its items are. -/
theorem list_map_readable {α : Type} {read : Decoder α} {write : α → Value} {finite : α → Bool}
    {g : α → α} {xs : List α}
    (h : ∀ x, read (write x).node = readable (finite x) (g x)) :
    Decoder.list read (Value.list (xs.map write)).node = readable (xs.all finite) (xs.map g) := by
  rw [Decoder.list_map_node]
  induction xs with
  | nil => rfl
  | cons x xs ih =>
    rw [List.mapM_cons, h x, ih, List.all_cons, List.map_cons]
    cases finite x <;> cases xs.all finite <;> rfl

/-- What the numeral of a finite number is read as. -/
def Binary64.reread (x : Binary64) : Binary64 :=
  match (Numeral.ofBinary64 x).value? with
  | some (.float y) => y
  | _ => x

/-- A number that is written is read as a number exactly if it is finite. -/
theorem Binary64.binary64_float (x : Binary64) :
    Decoder.binary64 (Value.float x).node = readable x.isFinite x.reread := by
  rw [Value.node, Value.token]
  · cases h : x.isFinite with
    | false => rfl
    | true =>
      obtain ⟨y, hy⟩ := Numeral.exists_value?_ofBinary64 h
      simp [Decoder.binary64, reread, hy, readable]
  all_goals simp

-- A number that is written can be read as a neighbour of it.
example : Binary64.reread ⟨0x4022061EFECE1438⟩ = ⟨0x4022061EFECE1439⟩ := by decide +kernel

/-! ### Operations -/

namespace Operand

/-- The operand is no floating point constant that is not finite. -/
def floatsFinite : Operand → Bool
  | .immediate (.float x) => x.isFinite
  | _ => true

/-- The operand with another floating point constant, if it is one. -/
def mapFloats (f : Binary64 → Binary64) : Operand → Operand
  | .immediate (.float x) => .immediate (.float (f x))
  | o => o

/-- A constant that is not finite is refused; of the others only floating point ones change. -/
theorem decode_eq (o : Operand) :
    decode o.toValue.node = readable o.floatsFinite (o.mapFloats Binary64.reread) := by
  cases o with
  | immediate constant =>
    cases constant with
    | int n => exact decode_toValue Bool.false_ne_true
    | float x =>
      have hconstant : Immediate.decode (Immediate.float x).toValue.node =
          readable x.isFinite (.float x.reread) := by
        rw [Immediate.decode, Immediate.toValue, Choice.decode_holding rfl,
          Binary64.binary64_float, map_readable]
      rw [decode, toValue, Choice.decode_holding rfl, hconstant, map_readable]
      rfl
  | _ => exact decode_toValue Bool.false_ne_true

end Operand

/-- The operation with another floating point constant, if it has one. -/
def Operation.mapFloats (f : Binary64 → Binary64) (o : Operation) : Operation :=
  { o with operand := o.operand.mapFloats f }

theorem Operation.decode_eq (o : Operation) :
    decode o.toValue.node = readable o.operand.floatsFinite (o.mapFloats Binary64.reread) := by
  rw [decode, toValue, Fields.decode_record rfl (by decide)]
  simp only [fields, Fields.readAll, Decoder.word32_int, OpKind.decode_toValue, Operand.decode_eq]
  cases o.operand.floatsFinite <;> rfl

/-! ### Methods, types and units -/

namespace MethodDefinition

/-- All floating point constants of the body are finite. -/
def floatsFinite (m : MethodDefinition) : Bool :=
  m.operations.all fun o => o.operand.floatsFinite

/-- The method with other floating point constants in its body. -/
def mapFloats (f : Binary64 → Binary64) (m : MethodDefinition) : MethodDefinition :=
  { m with operations := m.operations.map (Operation.mapFloats f) }

theorem decode_eq (m : MethodDefinition) :
    decode m.toValue.node = readable m.floatsFinite (m.mapFloats Binary64.reread) := by
  have hoperations : Decoder.list Operation.decode
      (Value.list (m.operations.map Operation.toValue)).node =
        readable m.floatsFinite (m.operations.map (Operation.mapFloats Binary64.reread)) :=
    list_map_readable Operation.decode_eq
  rw [decode, toValue, Fields.decode_record rfl (by decide)]
  simp only [fields, Fields.readAll, TypeRef.decode_toValue, Decoder.text_text,
    TypeRef.list_listToValue, TypeRef.optional_optionToValue, Visibility.decode_toValue,
    Modifiers.decode_toValue Modifiers.proper_ofMethod, hoperations,
    Decoder.list_map fun r _ => ExceptionRegion.decode_toValue r, Decoder.word16_int,
    Decoder.list_map fun v _ => LocalVariable.decode_toValue v]
  cases m.floatsFinite <;> rfl

end MethodDefinition

namespace TypeDefinition

/-- All floating point constants of the type are finite. -/
def floatsFinite (t : TypeDefinition) : Bool :=
  t.methods.all MethodDefinition.floatsFinite

/-- The type with other floating point constants in its methods. -/
def mapFloats (f : Binary64 → Binary64) (t : TypeDefinition) : TypeDefinition :=
  { t with methods := t.methods.map (MethodDefinition.mapFloats f) }

theorem decode_eq (t : TypeDefinition) :
    decode t.toValue.node = readable t.floatsFinite (t.mapFloats Binary64.reread) := by
  have hmethods : Decoder.list MethodDefinition.decode
      (Value.list (t.methods.map MethodDefinition.toValue)).node =
        readable t.floatsFinite (t.methods.map (MethodDefinition.mapFloats Binary64.reread)) :=
    list_map_readable MethodDefinition.decode_eq
  rw [decode, toValue, Fields.decode_record rfl (by decide)]
  simp only [recordFields, Fields.readAll, Decoder.text_text, Visibility.decode_toValue,
    Modifiers.decode_toValue Modifiers.proper_ofType, hmethods,
    Decoder.list_map fun f _ => FieldDefinition.decode_toValue f]
  cases t.floatsFinite <;> rfl

end TypeDefinition

namespace CompiledUnit

/-- All floating point constants of the unit are finite. -/
def floatsFinite (u : CompiledUnit) : Bool :=
  u.types.all TypeDefinition.floatsFinite

/-- The unit with other floating point constants. -/
def mapFloats (f : Binary64 → Binary64) (u : CompiledUnit) : CompiledUnit :=
  { u with types := u.types.map (TypeDefinition.mapFloats f) }

theorem decode_eq (u : CompiledUnit) :
    decode u.toValue.node = readable u.floatsFinite (u.mapFloats Binary64.reread) := by
  have htypes : Decoder.list TypeDefinition.decode
      (Value.list (u.types.map TypeDefinition.toValue)).node =
        readable u.floatsFinite (u.types.map (TypeDefinition.mapFloats Binary64.reread)) :=
    list_map_readable TypeDefinition.decode_eq
  rw [decode, toValue, Fields.decode_record rfl (by decide)]
  simp only [fields, Fields.readAll, Decoder.text_text, htypes]
  cases u.floatsFinite <;> rfl

/-- What the document of a unit is read as: the unit, up to its floating point constants, if they
are all finite; and otherwise the document is refused. -/
theorem fromJson_toJson_mapFloats (u : CompiledUnit) : fromJson u.toJson =
    if u.floatsFinite then .ok (u.mapFloats Binary64.reread) else .error noNumber := by
  rw [fromJson, toJson, Decoder.ofText_indented, decode_eq, readable]

/-- A unit with a method that loads a constant that is not a number. -/
def notANumber : CompiledUnit where
  name := "u"
  types := [{
    space := "N"
    name := "C"
    methods := [{
      declaringType := ⟨"N", "C", false⟩
      name := "f"
      operations := [⟨0, .other 0x23, .immediate (.float ⟨0x7FF8000000000000⟩)⟩, ⟨9, .ret, .none⟩]
      }] }]

/-- Its document is refused. -/
theorem fromJson_toJson_notANumber : notANumber.floatsFinite = false ∧
    fromJson notANumber.toJson = .error (.mismatch "invalid type: null, expected f64") := by
  have h : notANumber.floatsFinite = false := by decide
  refine ⟨h, ?_⟩
  rw [fromJson, toJson, Decoder.ofText_indented, decode_eq, h]
  rfl

end CompiledUnit

end BuildDrift
