import BuildDrift.Model.Type

/-!
# Compiled units

A compiled unit is one build of a module: a name and the types that the module defines. Units are
exchanged as documents.

## Main definitions

* `CompiledUnit`: the model.
* `CompiledUnit.typeNamed?`, `declaringType?`, `methods`: look-ups.
* `CompiledUnit.fromJson`, `toJson`: reading and writing a unit.
-/

namespace BuildDrift

open Json

/-- One build of a module. -/
structure CompiledUnit where
  /-- What the unit is called. -/
  name : String
  /-- The types that it defines. -/
  types : List TypeDefinition := []
  deriving DecidableEq, Repr, Inhabited

namespace CompiledUnit

/-- The first type with a qualified name. -/
def typeNamed? (u : CompiledUnit) (fullName : String) : Option TypeDefinition :=
  u.types.find? fun t => t.fullName = fullName

/-- Whether a type is the one that a method names as its declaring type. -/
def declares (t : TypeDefinition) (m : MethodDefinition) : Bool :=
  t.space = m.declaringType.space && t.name = m.declaringType.name

/-- The first type that a method names as its declaring type. -/
def declaringType? (u : CompiledUnit) (m : MethodDefinition) : Option TypeDefinition :=
  u.types.find? fun t => declares t m

/-- Every method of every type, in order. -/
def methods (u : CompiledUnit) : List MethodDefinition :=
  u.types.flatMap TypeDefinition.methods

/-- Every body keeps the rules of bodies. -/
def validate (u : CompiledUnit) : Except Malformation Unit :=
  u.methods.forM MethodDefinition.validate

/-- The fields of a unit. -/
def fields : Fields [String, List TypeDefinition] :=
  .cons ⟨"name", Decoder.text, none⟩ <|
    .cons ⟨"types", Decoder.list TypeDefinition.decode, some []⟩ .nil

/-- Reads a unit. -/
def decode : Decoder CompiledUnit := fun node =>
  (fields.decode "CompiledUnit" node).map fun (name, types, ()) => ⟨name, types⟩

/-- A unit as it is written. -/
def toValue (u : CompiledUnit) : Value :=
  .record [("name", .text u.name), ("types", .list (u.types.map TypeDefinition.toValue))]

/-- The unit of a document text. -/
def fromJson (text : String) : Except Fault CompiledUnit :=
  Decoder.ofText decode text

/-- The document text of a unit. -/
def toJson (u : CompiledUnit) : String :=
  u.toValue.indented

end CompiledUnit

end BuildDrift
