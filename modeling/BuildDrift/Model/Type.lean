import BuildDrift.Model.Method

/-!
# Types

A type is its name, its flags, and the methods and fields that it declares.

## Main definitions

* `FieldDefinition`, `TypeDefinition`: the model.
* `TypeDefinition.methodNamed?`, `methodsNamed`, `methodWithSignature?`, `fieldNamed?`: look-ups.
-/

namespace BuildDrift

open Json

/-- A field. -/
structure FieldDefinition where
  /-- The name. -/
  name : String
  /-- Who can reach the field. -/
  visibility : Visibility := .priv
  /-- The modifier bits. -/
  modifiers : Modifiers := .empty
  /-- The type of the field. -/
  type : TypeRef
  deriving DecidableEq, Repr, Inhabited

/-- A type with its members. -/
structure TypeDefinition where
  /-- The namespace, empty for the global one. -/
  space : String
  /-- The simple name. -/
  name : String
  /-- Who can reach the type. -/
  visibility : Visibility := .pub
  /-- The modifier bits. -/
  modifiers : Modifiers := .empty
  /-- The methods. -/
  methods : List MethodDefinition := []
  /-- The fields. -/
  fields : List FieldDefinition := []
  deriving DecidableEq, Repr, Inhabited

namespace FieldDefinition

/-- The fields of a field definition. -/
def fields : Fields [String, Visibility, Modifiers, TypeRef] :=
  .cons ⟨"name", Decoder.text, none⟩ <|
    .cons ⟨"visibility", Visibility.decode, some .priv⟩ <|
    .cons ⟨"modifiers", Modifiers.decode Modifiers.ofField, some .empty⟩ <|
    .cons ⟨"field_type", TypeRef.decode, none⟩ .nil

/-- Reads a field. -/
def decode : Decoder FieldDefinition := fun node =>
  (fields.decode "FieldDefinition" node).map fun (name, visibility, modifiers, type, ()) =>
    ⟨name, visibility, modifiers, type⟩

/-- A field as it is written. -/
def toValue (f : FieldDefinition) : Value :=
  .record [("name", .text f.name), ("visibility", f.visibility.toValue),
    ("modifiers", f.modifiers.toValue Modifiers.ofField), ("field_type", f.type.toValue)]

end FieldDefinition

namespace TypeDefinition

/-- A reference to the type. -/
def ref (t : TypeDefinition) : TypeRef :=
  ⟨t.space, t.name, t.modifiers.has .valueType⟩

/-- The qualified name of the type. -/
def fullName (t : TypeDefinition) : String :=
  TypeRef.qualified t.space t.name

/-- The first method with a name. -/
def methodNamed? (t : TypeDefinition) (name : String) : Option MethodDefinition :=
  t.methods.find? fun m => m.name = name

/-- All methods with a name. -/
def methodsNamed (t : TypeDefinition) (name : String) : List MethodDefinition :=
  t.methods.filter fun m => m.name = name

/-- The first method with a signature. -/
def methodWithSignature? (t : TypeDefinition) (signature : String) : Option MethodDefinition :=
  t.methods.find? fun m => m.signature = signature

/-- The first field with a name. -/
def fieldNamed? (t : TypeDefinition) (name : String) : Option FieldDefinition :=
  t.fields.find? fun f => f.name = name

/-- The fields of a type definition. -/
def recordFields : Fields [String, String, Visibility, Modifiers, List MethodDefinition,
    List FieldDefinition] :=
  .cons ⟨"namespace", Decoder.text, none⟩ <| .cons ⟨"name", Decoder.text, none⟩ <|
    .cons ⟨"visibility", Visibility.decode, some .priv⟩ <|
    .cons ⟨"modifiers", Modifiers.decode Modifiers.ofType, some .empty⟩ <|
    .cons ⟨"methods", Decoder.list MethodDefinition.decode, some []⟩ <|
    .cons ⟨"fields", Decoder.list FieldDefinition.decode, some []⟩ .nil

/-- Reads a type. -/
def decode : Decoder TypeDefinition := fun node =>
  (recordFields.decode "TypeDefinition" node).map
    fun (space, name, visibility, modifiers, methods, fields, ()) =>
      ⟨space, name, visibility, modifiers, methods, fields⟩

/-- A type as it is written. -/
def toValue (t : TypeDefinition) : Value :=
  .record [("namespace", .text t.space), ("name", .text t.name),
    ("visibility", t.visibility.toValue), ("modifiers", t.modifiers.toValue Modifiers.ofType),
    ("methods", .list (t.methods.map MethodDefinition.toValue)),
    ("fields", .list (t.fields.map FieldDefinition.toValue))]

end TypeDefinition

end BuildDrift
