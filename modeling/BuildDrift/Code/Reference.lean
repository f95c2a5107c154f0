/-!
# References to types, methods and fields

Operations name what they act on symbolically. A reference holds the names and, for a type,
whether its values are stored directly, which decides whether a result has to be boxed before it
is recorded.

## Main definitions

* `TypeRef`, `MethodRef`, `FieldRef`: the three kinds of reference.
* `TypeRef.fullName`, `MethodRef.signature`, `FieldRef.signature`: how they are written.
* `MethodRef.stackPops`: how many values a call takes from the evaluation stack.
-/

namespace BuildDrift

/-- A reference to a type by its qualified name. -/
structure TypeRef where
  /-- The namespace, empty for the global one. -/
  space : String
  /-- The simple name. -/
  name : String
  /-- Whether values of the type are stored directly. -/
  isValueType : Bool := false
  deriving DecidableEq, Repr, Inhabited

namespace TypeRef

/-- The type of objects of any class. -/
def object : TypeRef := ⟨"System", "Object", false⟩

/-- The type of texts. -/
def string : TypeRef := ⟨"System", "String", false⟩

/-- The type of integers of 32 bits. -/
def int32 : TypeRef := ⟨"System", "Int32", true⟩

/-- The type of truth values. -/
def boolean : TypeRef := ⟨"System", "Boolean", true⟩

/-- The name qualified by its namespace. -/
def qualified (space name : String) : String :=
  if space.isEmpty then name else space ++ "." ++ name

/-- The qualified name of the type. -/
def fullName (t : TypeRef) : String :=
  qualified t.space t.name

end TypeRef

/-- A reference to a method, as carried by calls and constructions. -/
structure MethodRef where
  /-- The type that declares the method. -/
  declaringType : TypeRef
  /-- The simple name. -/
  name : String
  /-- The parameter types, the object itself left out. -/
  parameters : List TypeRef := []
  /-- The type of the result; a method without one returns nothing. -/
  returnType : Option TypeRef := none
  /-- Whether the method takes the object itself as a first argument. -/
  hasThis : Bool := false
  deriving DecidableEq, Repr, Inhabited

namespace MethodRef

/-- Whether the method returns nothing. -/
def isVoid (m : MethodRef) : Bool :=
  m.returnType.isNone

/-- How many values a call takes from the evaluation stack. -/
def stackPops (m : MethodRef) : Nat :=
  m.parameters.length + m.hasThis.toNat

/-- The result type, qualified name and parameter types, as one text. -/
def signature (m : MethodRef) : String :=
  (match m.returnType with
    | some t => t.fullName
    | none => "System.Void") ++ " " ++ m.declaringType.fullName ++ "::" ++ m.name ++ "(" ++
    String.intercalate ", " (m.parameters.map TypeRef.fullName) ++ ")"

end MethodRef

/-- A reference to a field. -/
structure FieldRef where
  /-- The type that declares the field. -/
  declaringType : TypeRef
  /-- The name of the field. -/
  name : String
  /-- The type of the field. -/
  fieldType : TypeRef
  deriving DecidableEq, Repr, Inhabited

/-- The type and the qualified name of the field, as one text. -/
def FieldRef.signature (f : FieldRef) : String :=
  f.fieldType.fullName ++ " " ++ f.declaringType.fullName ++ "::" ++ f.name

end BuildDrift
