import BuildDrift.Code.Operation
import BuildDrift.Json.Choice
import BuildDrift.Json.Record
import BuildDrift.Json.Value

/-!
# Operations in documents

How references, operands and operations are read from documents and written to them. Records list
all their fields when written; when read, lists, absent results and truth values may be left out.

## Main definitions

* `Operation.decode`, `Operation.toValue`, and the same for every part of an operation.
-/

namespace BuildDrift

open Json

/-! ### References -/

namespace TypeRef

/-- The fields of a type reference. -/
def fields : Fields [String, String, Bool] :=
  .cons ⟨"namespace", Decoder.text, none⟩ <| .cons ⟨"name", Decoder.text, none⟩ <|
    .cons ⟨"is_value_type", Decoder.bool, some false⟩ .nil

/-- Reads a type reference. -/
def decode : Decoder TypeRef := fun node =>
  (fields.decode "TypeRef" node).map fun (space, name, isValueType, ()) =>
    ⟨space, name, isValueType⟩

/-- A type reference as it is written. -/
def toValue (t : TypeRef) : Value :=
  .record [("namespace", .text t.space), ("name", .text t.name),
    ("is_value_type", .bool t.isValueType)]

/-- A type reference or none, as it is written. -/
def optionToValue : Option TypeRef → Value
  | none => .null
  | some t => t.toValue

/-- A list of type references as it is written. -/
def listToValue (ts : List TypeRef) : Value :=
  .list (ts.map toValue)

end TypeRef

namespace MethodRef

/-- The fields of a method reference. -/
def fields : Fields [TypeRef, String, List TypeRef, Option TypeRef, Bool] :=
  .cons ⟨"declaring_type", TypeRef.decode, none⟩ <| .cons ⟨"name", Decoder.text, none⟩ <|
    .cons ⟨"parameters", Decoder.list TypeRef.decode, some []⟩ <|
    .cons ⟨"return_type", Decoder.optional TypeRef.decode, some none⟩ <|
    .cons ⟨"has_this", Decoder.bool, some false⟩ .nil

/-- Reads a method reference. -/
def decode : Decoder MethodRef := fun node =>
  (fields.decode "MethodRef" node).map
    fun (declaringType, name, parameters, returnType, hasThis, ()) =>
      ⟨declaringType, name, parameters, returnType, hasThis⟩

/-- A method reference as it is written. -/
def toValue (m : MethodRef) : Value :=
  .record [("declaring_type", m.declaringType.toValue), ("name", .text m.name),
    ("parameters", TypeRef.listToValue m.parameters),
    ("return_type", TypeRef.optionToValue m.returnType), ("has_this", .bool m.hasThis)]

end MethodRef

namespace FieldRef

/-- The fields of a field reference. -/
def fields : Fields [TypeRef, String, TypeRef] :=
  .cons ⟨"declaring_type", TypeRef.decode, none⟩ <| .cons ⟨"name", Decoder.text, none⟩ <|
    .cons ⟨"field_type", TypeRef.decode, none⟩ .nil

/-- Reads a field reference. -/
def decode : Decoder FieldRef := fun node =>
  (fields.decode "FieldRef" node).map fun (declaringType, name, fieldType, ()) =>
    ⟨declaringType, name, fieldType⟩

/-- A field reference as it is written. -/
def toValue (f : FieldRef) : Value :=
  .record [("declaring_type", f.declaringType.toValue), ("name", .text f.name),
    ("field_type", f.fieldType.toValue)]

end FieldRef

/-! ### Operands -/

namespace Immediate

/-- Reads a constant. -/
def decode : Decoder Immediate :=
  Choice.decode [
    ("Int", .something fun node => (Decoder.int64 node).map int),
    ("Float", .something fun node => (Decoder.binary64 node).map float)]

/-- A constant as it is written. -/
def toValue : Immediate → Value
  | int n => .record [("Int", .int n.toInt)]
  | float x => .record [("Float", .float x)]

end Immediate

namespace Operand

/-- Reads an operand. -/
def decode : Decoder Operand :=
  Choice.decode [
    ("None", .nothing none),
    ("Method", .something fun node => (MethodRef.decode node).map method),
    ("Local", .something fun node => (Decoder.word16 node).map slot),
    ("String", .something fun node => (Decoder.text node).map text),
    ("Type", .something fun node => (TypeRef.decode node).map type),
    ("Field", .something fun node => (FieldRef.decode node).map field),
    ("Argument", .something fun node => (Decoder.word16 node).map argument),
    ("Immediate", .something fun node => (Immediate.decode node).map immediate),
    ("Target", .something fun node => (Decoder.word32 node).map target)]

/-- An operand as it is written. -/
def toValue : Operand → Value
  | none => .text "None"
  | method m => .record [("Method", m.toValue)]
  | slot i => .record [("Local", .int i.toNat)]
  | text s => .record [("String", .text s)]
  | type t => .record [("Type", t.toValue)]
  | field f => .record [("Field", f.toValue)]
  | argument i => .record [("Argument", .int i.toNat)]
  | immediate x => .record [("Immediate", x.toValue)]
  | target o => .record [("Target", .int o.toNat)]

end Operand

/-! ### Kinds and operations -/

namespace OpKind

/-- Reads a kind. -/
def decode : Decoder OpKind :=
  Choice.decode [
    ("Call", .nothing call), ("CallVirt", .nothing callVirt), ("NewObj", .nothing newObj),
    ("LoadLocal", .nothing loadLocal), ("StoreLocal", .nothing storeLocal), ("Pop", .nothing pop),
    ("Return", .nothing ret), ("LoadString", .nothing loadString), ("Box", .nothing box),
    ("Leave", .nothing leave),
    ("Branch", .something fun node => (Decoder.word16 node).map branch),
    ("Other", .something fun node => (Decoder.word16 node).map other)]

/-- A kind as it is written. -/
def toValue : OpKind → Value
  | call => .text "Call"
  | callVirt => .text "CallVirt"
  | newObj => .text "NewObj"
  | loadLocal => .text "LoadLocal"
  | storeLocal => .text "StoreLocal"
  | pop => .text "Pop"
  | ret => .text "Return"
  | loadString => .text "LoadString"
  | box => .text "Box"
  | leave => .text "Leave"
  | branch opcode => .record [("Branch", .int opcode.toNat)]
  | other opcode => .record [("Other", .int opcode.toNat)]

end OpKind

namespace Operation

/-- The fields of an operation. -/
def fields : Fields [Offset, OpKind, Operand] :=
  .cons ⟨"offset", Decoder.word32, none⟩ <| .cons ⟨"kind", OpKind.decode, none⟩ <|
    .cons ⟨"operand", Operand.decode, none⟩ .nil

/-- Reads an operation. -/
def decode : Decoder Operation := fun node =>
  (fields.decode "Operation" node).map fun (offset, kind, operand, ()) => ⟨offset, kind, operand⟩

/-- An operation as it is written. -/
def toValue (o : Operation) : Value :=
  .record [("offset", .int o.offset.toNat), ("kind", o.kind.toValue),
    ("operand", o.operand.toValue)]

end Operation

end BuildDrift
