import BuildDrift.Model.Unit
import BuildDrift.Proofs.Json.Reading
import BuildDrift.Proofs.Model.Modifiers

/-!
# Units are read back

A unit is written as a document of records, lists and variants, and read back from it. For every
part of the model the decoder reads what the part is written as: a record gives its fields in their
order, a variant its name, a list its items, a word of modifiers its flags. The only constants that
need not be read back are the floating point ones, since those that are not finite are written as no
value.

## Main definitions

* `CompiledUnit.WithoutFloats`: no operand of the unit is a floating point constant.

## Main results

* `Operation.decode_toValue`, `MethodDefinition.decode_toValue` and the same for every part of the
  model: what is written is read back.
* `CompiledUnit.fromJson_toJson`: a unit is read back from its document.
-/

namespace BuildDrift

open Json

/-! ### References -/

theorem TypeRef.decode_toValue (t : TypeRef) : decode t.toValue.node = .ok t := by
  have hgiven : fields.Given [("namespace", .text t.space), ("name", .text t.name),
      ("is_value_type", .bool t.isValueType)] (t.space, t.name, t.isValueType, ()) :=
    .cons rfl <| .cons rfl <| .cons rfl .nil
  rw [decode, toValue, hgiven.decode (by decide)]
  rfl

theorem TypeRef.optional_optionToValue (t : Option TypeRef) :
    Decoder.optional decode (optionToValue t).node = .ok t := by
  cases t with
  | none => rfl
  | some t =>
    have hoptional : Decoder.optional decode (optionToValue (some t)).node =
        (decode t.toValue.node).map some := rfl
    rw [hoptional, decode_toValue]
    rfl

theorem TypeRef.list_listToValue (ts : List TypeRef) :
    Decoder.list decode (listToValue ts).node = .ok ts :=
  Decoder.list_map fun t _ => t.decode_toValue

theorem MethodRef.decode_toValue (m : MethodRef) : decode m.toValue.node = .ok m := by
  have hgiven : fields.Given [("declaring_type", m.declaringType.toValue), ("name", .text m.name),
      ("parameters", TypeRef.listToValue m.parameters),
      ("return_type", TypeRef.optionToValue m.returnType), ("has_this", .bool m.hasThis)]
      (m.declaringType, m.name, m.parameters, m.returnType, m.hasThis, ()) :=
    .cons m.declaringType.decode_toValue <| .cons rfl <|
      .cons (TypeRef.list_listToValue m.parameters) <|
      .cons (TypeRef.optional_optionToValue m.returnType) <| .cons rfl .nil
  rw [decode, toValue, hgiven.decode (by decide)]
  rfl

theorem FieldRef.decode_toValue (f : FieldRef) : decode f.toValue.node = .ok f := by
  have hgiven : fields.Given [("declaring_type", f.declaringType.toValue), ("name", .text f.name),
      ("field_type", f.fieldType.toValue)] (f.declaringType, f.name, f.fieldType, ()) :=
    .cons f.declaringType.decode_toValue <| .cons rfl <| .cons f.fieldType.decode_toValue .nil
  rw [decode, toValue, hgiven.decode (by decide)]
  rfl

/-! ### Operations -/

/-- Whether an operand is a floating point constant. -/
def Operand.isFloat : Operand → Bool
  | .immediate (.float _) => true
  | _ => false

/-- An integer constant is read back. -/
theorem Immediate.decode_toValue_int (n : Int64) : decode (int n).toValue.node = .ok (int n) :=
  Choice.decode_record rfl (Decoder.int64_int n)

theorem Operand.decode_toValue {o : Operand} (h : ¬o.isFloat) : decode o.toValue.node = .ok o := by
  cases o with
  | none => exact Choice.decode_text rfl
  | method m => exact Choice.decode_record rfl m.decode_toValue
  | slot i => exact Choice.decode_record rfl (Decoder.word16_int i)
  | text s =>
    have hread : Decoder.text (Value.text s).node = .ok s := rfl
    exact Choice.decode_record rfl hread
  | type t => exact Choice.decode_record rfl t.decode_toValue
  | field f => exact Choice.decode_record rfl f.decode_toValue
  | argument i => exact Choice.decode_record rfl (Decoder.word16_int i)
  | immediate x =>
    cases x with
    | int n => exact Choice.decode_record rfl (Immediate.decode_toValue_int n)
    | float x => exact absurd rfl h
  | target o => exact Choice.decode_record rfl (Decoder.word32_int o)

theorem OpKind.decode_toValue (k : OpKind) : decode k.toValue.node = .ok k := by
  cases k with
  | branch opcode => exact Choice.decode_record rfl (Decoder.word16_int opcode)
  | other opcode => exact Choice.decode_record rfl (Decoder.word16_int opcode)
  | _ => exact Choice.decode_text rfl

theorem Operation.decode_toValue {o : Operation} (h : ¬o.operand.isFloat) :
    decode o.toValue.node = .ok o := by
  have hgiven : fields.Given [("offset", .int o.offset.toNat), ("kind", o.kind.toValue),
      ("operand", o.operand.toValue)] (o.offset, o.kind, o.operand, ()) :=
    .cons (Decoder.word32_int o.offset) <| .cons o.kind.decode_toValue <|
      .cons (Operand.decode_toValue h) .nil
  rw [decode, toValue, hgiven.decode (by decide)]
  rfl

/-! ### Methods -/

theorem LocalVariable.decode_toValue (v : LocalVariable) : decode v.toValue.node = .ok v := by
  have hgiven : fields.Given [("index", .int v.index.toNat), ("name", .text v.name),
      ("ty", v.type.toValue)] (v.index, v.name, v.type, ()) :=
    .cons (Decoder.word16_int v.index) <| .cons rfl <| .cons v.type.decode_toValue .nil
  rw [decode, toValue, hgiven.decode (by decide)]
  rfl

theorem Visibility.decode_toValue (v : Visibility) : decode v.toValue.node = .ok v := by
  cases v <;> exact Choice.decode_text rfl

theorem HandlerKind.decode_name (k : HandlerKind) :
    decode (Value.text k.name).node = .ok k := by
  cases k <;> exact Choice.decode_text rfl

theorem Modifiers.decode_toValue {names : Names} (h : names.Proper) (m : Modifiers) :
    decode names (m.toValue names).node = .ok m := by
  rw [toValue, Value.node, Value.token, decode, parse_render h]
  all_goals simp

theorem ExceptionRegion.decode_toValue (r : ExceptionRegion) : decode r.toValue.node = .ok r := by
  have hgiven : fields.Given [("try_start", .int r.tryStart.toNat),
      ("try_end", .int r.tryEnd.toNat), ("handler_start", .int r.handlerStart.toNat),
      ("handler_end", .int r.handlerEnd.toNat), ("kind", .text r.kind.name),
      ("catch_type", TypeRef.optionToValue r.caught)]
      (r.tryStart, r.tryEnd, r.handlerStart, r.handlerEnd, r.kind, r.caught, ()) :=
    .cons (Decoder.word32_int r.tryStart) <| .cons (Decoder.word32_int r.tryEnd) <|
      .cons (Decoder.word32_int r.handlerStart) <| .cons (Decoder.word32_int r.handlerEnd) <|
      .cons r.kind.decode_name <| .cons (TypeRef.optional_optionToValue r.caught) .nil
  rw [decode, toValue, hgiven.decode (by decide)]
  rfl

theorem MethodDefinition.decode_toValue {m : MethodDefinition}
    (h : ∀ o ∈ m.operations, ¬o.operand.isFloat) : decode m.toValue.node = .ok m := by
  have hgiven : fields.Given [("declaring_type", m.declaringType.toValue), ("name", .text m.name),
      ("parameters", TypeRef.listToValue m.parameters),
      ("return_type", TypeRef.optionToValue m.returnType), ("visibility", m.visibility.toValue),
      ("modifiers", m.modifiers.toValue Modifiers.ofMethod),
      ("operations", .list (m.operations.map Operation.toValue)),
      ("exception_regions", .list (m.regions.map ExceptionRegion.toValue)),
      ("max_stack", .int m.maxStack.toNat),
      ("locals", .list (m.locals.map LocalVariable.toValue))]
      (m.declaringType, m.name, m.parameters, m.returnType, m.visibility, m.modifiers,
        m.operations, m.regions, m.maxStack, m.locals, ()) :=
    .cons m.declaringType.decode_toValue <| .cons rfl <|
      .cons (TypeRef.list_listToValue m.parameters) <|
      .cons (TypeRef.optional_optionToValue m.returnType) <|
      .cons m.visibility.decode_toValue <|
      .cons (Modifiers.decode_toValue Modifiers.proper_ofMethod m.modifiers) <|
      .cons (Decoder.list_map fun o ho => Operation.decode_toValue (h o ho)) <|
      .cons (Decoder.list_map fun r _ => r.decode_toValue) <|
      .cons (Decoder.word16_int m.maxStack) <|
      .cons (Decoder.list_map fun v _ => v.decode_toValue) .nil
  rw [decode, toValue, hgiven.decode (by decide)]
  rfl

/-! ### Types and units -/

theorem FieldDefinition.decode_toValue (f : FieldDefinition) : decode f.toValue.node = .ok f := by
  have hgiven : fields.Given [("name", .text f.name), ("visibility", f.visibility.toValue),
      ("modifiers", f.modifiers.toValue Modifiers.ofField), ("field_type", f.type.toValue)]
      (f.name, f.visibility, f.modifiers, f.type, ()) :=
    .cons rfl <| .cons f.visibility.decode_toValue <|
      .cons (Modifiers.decode_toValue Modifiers.proper_ofField f.modifiers) <|
      .cons f.type.decode_toValue .nil
  rw [decode, toValue, hgiven.decode (by decide)]
  rfl

theorem TypeDefinition.decode_toValue {t : TypeDefinition}
    (h : ∀ m ∈ t.methods, ∀ o ∈ m.operations, ¬o.operand.isFloat) :
    decode t.toValue.node = .ok t := by
  have hgiven : recordFields.Given [("namespace", .text t.space), ("name", .text t.name),
      ("visibility", t.visibility.toValue), ("modifiers", t.modifiers.toValue Modifiers.ofType),
      ("methods", .list (t.methods.map MethodDefinition.toValue)),
      ("fields", .list (t.fields.map FieldDefinition.toValue))]
      (t.space, t.name, t.visibility, t.modifiers, t.methods, t.fields, ()) :=
    .cons rfl <| .cons rfl <| .cons t.visibility.decode_toValue <|
      .cons (Modifiers.decode_toValue Modifiers.proper_ofType t.modifiers) <|
      .cons (Decoder.list_map fun m hm => MethodDefinition.decode_toValue (h m hm)) <|
      .cons (Decoder.list_map fun f _ => f.decode_toValue) .nil
  rw [decode, toValue, hgiven.decode (by decide)]
  rfl

namespace CompiledUnit

/-- No operand of the unit is a floating point constant. -/
def WithoutFloats (u : CompiledUnit) : Prop :=
  ∀ t ∈ u.types, ∀ m ∈ t.methods, ∀ o ∈ m.operations, ¬o.operand.isFloat

instance (u : CompiledUnit) : Decidable u.WithoutFloats :=
  inferInstanceAs (Decidable (∀ t ∈ u.types, ∀ m ∈ t.methods, ∀ o ∈ m.operations,
    ¬o.operand.isFloat))

theorem decode_toValue {u : CompiledUnit} (h : u.WithoutFloats) :
    decode u.toValue.node = .ok u := by
  have hgiven : fields.Given [("name", .text u.name),
      ("types", .list (u.types.map TypeDefinition.toValue))] (u.name, u.types, ()) :=
    .cons rfl <| .cons (Decoder.list_map fun t ht => TypeDefinition.decode_toValue (h t ht)) .nil
  rw [decode, toValue, hgiven.decode (by decide)]
  rfl

/-- A unit without floating point constants is read back from its document, whatever its names,
texts, bits and bodies are. -/
theorem fromJson_toJson {u : CompiledUnit} (h : u.WithoutFloats) : fromJson u.toJson = .ok u := by
  rw [fromJson, toJson, Decoder.ofText_indented, decode_toValue h]

/-- A unit whose names need escapes, whose bits have no names, and whose body breaks every rule of
bodies. -/
def oddUnit : CompiledUnit where
  name := "\"build\" \\ \x01\n\u0085 \u20ac"
  types := [{
    space := ""
    name := "| 0x"
    visibility := .familyOrAssembly
    modifiers := ⟨0xFFFFFFFF⟩
    methods := [{
      declaringType := ⟨"Other", "Type", true⟩
      name := ""
      parameters := [.int32, ⟨"", "\t", false⟩]
      returnType := some .string
      visibility := .compilerControlled
      modifiers := ⟨0x80000010⟩
      operations := [
        ⟨7, .branch 0x39, .target 4294967295⟩,
        ⟨7, .other 0xFE09, .argument 65535⟩,
        ⟨0, .call, .method ⟨.object, "ToString", [], none, true⟩⟩,
        ⟨3, .loadString, .text "\r\n"⟩,
        ⟨4294967295, .other 0x21, .immediate (.int Int64.minValue)⟩]
      regions := [⟨9, 1, 5, 2, .filter, none⟩, .catchAll 0 0 1 0]
      maxStack := 0
      locals := [⟨3, "x", .boolean⟩, ⟨3, "x", .boolean⟩] }]
    fields := [{ name := "f", modifiers := ⟨0x30⟩, type := .object }] }]

theorem fromJson_toJson_oddUnit :
    oddUnit.WithoutFloats ∧ fromJson oddUnit.toJson = .ok oddUnit :=
  have h : oddUnit.WithoutFloats := by decide
  ⟨h, fromJson_toJson h⟩

end CompiledUnit

end BuildDrift
