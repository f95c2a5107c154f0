import BuildDrift.Code.Index
import BuildDrift.Model.Modifiers
import BuildDrift.Model.Region
import BuildDrift.Model.Visibility

/-!
# Methods

A method is its signature together with its body: the operations, the exception regions, the
declared depth of the evaluation stack and the local variable slots.

## Main definitions

* `LocalVariable`, `MethodDefinition`: the model.
* `MethodDefinition.signature`: the text by which methods of two units are matched.
* `MethodDefinition.validate`: the rules that a body keeps.
-/

namespace BuildDrift

open Json

/-- A local variable slot. -/
structure LocalVariable where
  /-- The slot, which is the position in the list of locals. -/
  index : UInt16
  /-- The name. -/
  name : String
  /-- The type. -/
  type : TypeRef
  deriving DecidableEq, Repr, Inhabited

/-- A method with its body. -/
structure MethodDefinition where
  /-- The type that declares the method. -/
  declaringType : TypeRef
  /-- The simple name. -/
  name : String
  /-- The parameter types, the object itself left out. -/
  parameters : List TypeRef := []
  /-- The type of the result; a method without one returns nothing. -/
  returnType : Option TypeRef := none
  /-- Who can reach the method. -/
  visibility : Visibility := .pub
  /-- The modifier bits. -/
  modifiers : Modifiers := .empty
  /-- The operations of the body. -/
  operations : Body := []
  /-- The exception regions of the body. -/
  regions : List ExceptionRegion := []
  /-- The declared depth of the evaluation stack. -/
  maxStack : UInt16 := 8
  /-- The local variables. -/
  locals : List LocalVariable := []
  deriving DecidableEq, Repr, Inhabited

namespace LocalVariable

/-- The fields of a local variable. -/
def fields : Fields [UInt16, String, TypeRef] :=
  .cons ⟨"index", Decoder.word16, none⟩ <| .cons ⟨"name", Decoder.text, none⟩ <|
    .cons ⟨"ty", TypeRef.decode, none⟩ .nil

/-- Reads a local variable. -/
def decode : Decoder LocalVariable := fun node =>
  (fields.decode "LocalVariable" node).map fun (index, name, type, ()) => ⟨index, name, type⟩

/-- A local variable as it is written. -/
def toValue (v : LocalVariable) : Value :=
  .record [("index", .int v.index.toNat), ("name", .text v.name), ("ty", v.type.toValue)]

end LocalVariable

namespace MethodDefinition

/-! ### Signatures -/

/-- Whether the method returns nothing. -/
def isVoid (m : MethodDefinition) : Bool :=
  m.returnType.isNone

/-- Whether the method belongs to the type and not to its objects. -/
def isStatic (m : MethodDefinition) : Bool :=
  m.modifiers.has .staticMember

/-- The name qualified by the declaring type. -/
def fullName (m : MethodDefinition) : String :=
  m.declaringType.fullName ++ "::" ++ m.name

/-- A reference by which the method is called. -/
def ref (m : MethodDefinition) : MethodRef where
  declaringType := m.declaringType
  name := m.name
  parameters := m.parameters
  returnType := m.returnType
  hasThis := !m.isStatic

/-- The result type, qualified name and parameter types, as one text. -/
def signature (m : MethodDefinition) : String :=
  m.ref.signature

/-! ### Bodies -/

/-- The local variable in a slot. -/
def localAt? (m : MethodDefinition) (index : UInt16) : Option LocalVariable :=
  m.locals[index.toNat]?

/-- The method with one more local, whose slot is the number of locals before it; slots are
counted with sixteen bits. -/
def addLocal (m : MethodDefinition) (name : String) (type : TypeRef) : MethodDefinition :=
  { m with locals := m.locals ++ [⟨UInt16.ofNat m.locals.length, name, type⟩] }

/-- The method with more locals, numbered on from those it has. -/
def addLocals (m : MethodDefinition) (additions : List (String × TypeRef)) : MethodDefinition :=
  let first := m.locals.length
  let added := additions.zipIdx.map fun ((name, type), i) =>
    (⟨UInt16.ofNat (first + i), name, type⟩ : LocalVariable)
  { m with locals := m.locals ++ added }

/-- The offset behind a body, or the greatest offset if the body ends behind it. -/
def codeSizeOf (body : Body) : Offset :=
  match body.getLast? with
  | none => 0
  | some last => last.endOffset?.getD Offset.greatest

/-- The offset behind the body, or the greatest offset if the body ends behind it. -/
def codeSize (m : MethodDefinition) : Offset :=
  codeSizeOf m.operations

/-- The last operation of a body ends within the range of offsets. -/
def validateEnd (m : MethodDefinition) : Except Malformation Unit :=
  match m.operations.getLast? with
  | none => .ok ()
  | some last =>
    if last.endOffset?.isSome then .ok () else .error (.endsBeyondRange m.fullName last)

/-- Every region is in order. -/
def validateRegions (m : MethodDefinition) : Except Malformation Unit :=
  m.regions.forM fun r => r.validate.mapError (.part m.fullName)

/-- Every local is numbered by its position. -/
def validateLocals (m : MethodDefinition) : Except Malformation Unit :=
  m.locals.zipIdx.forM fun (v, i) =>
    if v.index.toNat = i then .ok () else .error (.slotMisnumbered m.fullName v.name v.index i)

/-- The rules of bodies: offsets strictly increase and end in range, regions are in order, and
locals are numbered by their position. The first rule that is broken is given. -/
def validate (m : MethodDefinition) : Except Malformation Unit := do
  (Body.checkOrder m.operations).mapError (.part m.fullName)
  m.validateEnd
  m.validateRegions
  m.validateLocals

/-! ### Documents -/

/-- The fields of a method. -/
def fields : Fields [TypeRef, String, List TypeRef, Option TypeRef, Visibility, Modifiers, Body,
    List ExceptionRegion, UInt16, List LocalVariable] :=
  .cons ⟨"declaring_type", TypeRef.decode, none⟩ <| .cons ⟨"name", Decoder.text, none⟩ <|
    .cons ⟨"parameters", Decoder.list TypeRef.decode, some []⟩ <|
    .cons ⟨"return_type", Decoder.optional TypeRef.decode, some none⟩ <|
    .cons ⟨"visibility", Visibility.decode, some .priv⟩ <|
    .cons ⟨"modifiers", Modifiers.decode Modifiers.ofMethod, some .empty⟩ <|
    .cons ⟨"operations", Decoder.list Operation.decode, some []⟩ <|
    .cons ⟨"exception_regions", Decoder.list ExceptionRegion.decode, some []⟩ <|
    .cons ⟨"max_stack", Decoder.word16, none⟩ <|
    .cons ⟨"locals", Decoder.list LocalVariable.decode, some []⟩ .nil

/-- Reads a method. -/
def decode : Decoder MethodDefinition := fun node =>
  (fields.decode "MethodDefinition" node).map
    fun (declaringType, name, parameters, returnType, visibility, modifiers, operations, regions,
        maxStack, locals, ()) =>
      ⟨declaringType, name, parameters, returnType, visibility, modifiers, operations, regions,
        maxStack, locals⟩

/-- A method as it is written. -/
def toValue (m : MethodDefinition) : Value :=
  .record [("declaring_type", m.declaringType.toValue), ("name", .text m.name),
    ("parameters", TypeRef.listToValue m.parameters),
    ("return_type", TypeRef.optionToValue m.returnType), ("visibility", m.visibility.toValue),
    ("modifiers", m.modifiers.toValue Modifiers.ofMethod),
    ("operations", .list (m.operations.map Operation.toValue)),
    ("exception_regions", .list (m.regions.map ExceptionRegion.toValue)),
    ("max_stack", .int m.maxStack.toNat),
    ("locals", .list (m.locals.map LocalVariable.toValue))]

end MethodDefinition

end BuildDrift
