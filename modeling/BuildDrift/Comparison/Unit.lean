import BuildDrift.Comparison.Body
import BuildDrift.Selection.IgnoreRules
import BuildDrift.Log

/-!
# Comparing units

Two builds of a unit are compared type by type and method by method, starting from the newer
build. A type is compared with the last type of its full name in the older build; a method with
the first method of its name and signature there, or failing that the first of its name. What has
no counterpart is listed apart and never counts as changed. Exclusions say what is left out.

## Main definitions

* `MethodVerdict`, `TypeVerdict`: what becomes of a method or a type of the newer build.
* `MethodDefinition.verdict`, `TypeDefinition.verdict`: the verdicts.
* `UnitDiff`: changed types, items without counterpart, and methods that cannot be compared.
* `UnitDiff.between`: what has changed from one build to another.
-/

namespace BuildDrift

/-! ### Verdicts -/

/-- What becomes of a method of the newer build. -/
inductive MethodVerdict where
  /-- It is left out. -/
  | excluded
  /-- It has no counterpart. -/
  | unmatched
  /-- It cannot be compared, since it or its counterpart is malformed. -/
  | incomparable (cause : Malformation)
  /-- It has been compared. -/
  | compared (verdict : BodyVerdict)
  deriving DecidableEq, Repr

/-- What becomes of a type of the newer build. -/
inductive TypeVerdict where
  /-- It is left out. -/
  | excluded
  /-- It has no counterpart. -/
  | unmatched
  /-- It has a counterpart at a position of the older build, and verdicts for its methods. -/
  | matched (oldPosition : Nat) (methods : List MethodVerdict)
  deriving DecidableEq, Repr

/-- The counterpart of a method: the first of its name and signature, or else of its name. -/
def TypeDefinition.counterpart? (old : TypeDefinition) (m : MethodDefinition) :
    Option MethodDefinition :=
  ((old.methodsNamed m.name).find? fun c => c.signature = m.signature).orElse fun _ =>
    old.methodNamed? m.name

/-- The last type of a full name, with its position. -/
def CompiledUnit.lastTypeNamed? (u : CompiledUnit) (fullName : String) :
    Option (TypeDefinition × Nat) :=
  u.types.zipIdx.reverse.find? fun (t, _) => t.fullName = fullName

/-- Whether an item of some kind and name is left out. -/
def Exclusion.anyCovers (exclusions : List Exclusion) (kind : ItemKind) (name : String) : Bool :=
  exclusions.any fun e => e.covers kind name

/-- What becomes of a method whose type has a counterpart. -/
def MethodDefinition.verdict (exclusions : List Exclusion) (old : TypeDefinition)
    (m : MethodDefinition) : MethodVerdict :=
  if Exclusion.anyCovers exclusions .method m.name then .excluded
  else
    match old.counterpart? m with
    | none => .unmatched
    | some c =>
      match c.validate, m.validate with
      | .error cause, _ => .incomparable cause
      | .ok _, .error cause => .incomparable cause
      | .ok _, .ok _ => .compared (Body.compare c.operations m.operations)

/-- What becomes of a type. -/
def TypeDefinition.verdict (exclusions : List Exclusion) (old : CompiledUnit)
    (t : TypeDefinition) : TypeVerdict :=
  if Exclusion.anyCovers exclusions .type t.fullName then .excluded
  else
    match old.lastTypeNamed? t.fullName with
    | none => .unmatched
    | some (oldType, oldPosition) =>
      .matched oldPosition (t.methods.map (MethodDefinition.verdict exclusions oldType))

/-! ### Results -/

/-- A method of the newer build that has changed. -/
structure ChangedMethod where
  /-- Its position in its type. -/
  position : Nat
  /-- The method. -/
  method : MethodDefinition
  deriving DecidableEq, Repr

/-- A type with changed methods. -/
structure ChangedType where
  /-- The position of the type in the older build. -/
  oldPosition : Nat
  /-- The position of the type in the newer build. -/
  newPosition : Nat
  /-- The type in the newer build. -/
  type : TypeDefinition
  /-- The methods that have changed. -/
  methods : List ChangedMethod
  deriving DecidableEq, Repr

/-- An item of the newer build without counterpart in the older one. -/
inductive Unmatched where
  /-- A type. -/
  | type (position : Nat) (type : TypeDefinition)
  /-- A method of a type that has a counterpart. -/
  | method (typePosition position : Nat) (method : MethodDefinition)
  deriving DecidableEq, Repr

/-- The full name of an item without counterpart. -/
def Unmatched.fullName : Unmatched → String
  | type _ t => t.fullName
  | method _ _ m => m.fullName

/-- A method that cannot be compared. -/
structure Incomparable where
  /-- The position of its type. -/
  typePosition : Nat
  /-- Its position in its type. -/
  position : Nat
  /-- Why it cannot be compared; the reason text is the wording of the cause. -/
  cause : Malformation
  deriving DecidableEq, Repr

/-- What has changed from one build to another. -/
structure UnitDiff where
  /-- The types with changed methods. -/
  changedTypes : List ChangedType
  /-- The items of the newer build without counterpart. -/
  unmatched : List Unmatched
  /-- The methods that cannot be compared. -/
  incomparable : List Incomparable
  /-- What was noted on the way. -/
  logs : List LogRecord
  deriving DecidableEq, Repr

namespace TypeVerdict

/-- The methods of a type with their positions and verdicts. -/
def entries (t : TypeDefinition) : TypeVerdict → List (Nat × MethodDefinition × MethodVerdict)
  | matched _ verdicts => (t.methods.zip verdicts).zipIdx.map fun ((m, v), i) => (i, m, v)
  | _ => []

/-- The changes of a type, if there are any. -/
def changedType? (position : Nat) (t : TypeDefinition) (v : TypeVerdict) : Option ChangedType :=
  match v with
  | matched oldPosition _ =>
    let methods := (v.entries t).filterMap fun (i, m, verdict) =>
      match verdict with
      | .compared body => if body.isChanged then some ⟨i, m⟩ else none
      | _ => none
    if methods.isEmpty then none else some ⟨oldPosition, position, t, methods⟩
  | _ => none

/-- The items without counterpart. -/
def unmatchedItems (position : Nat) (t : TypeDefinition) (v : TypeVerdict) : List Unmatched :=
  match v with
  | excluded => []
  | unmatched => [.type position t]
  | matched .. => (v.entries t).filterMap fun (i, m, verdict) =>
    if verdict = .unmatched then some (.method position i m) else none

/-- The methods that cannot be compared. -/
def incomparableMethods (position : Nat) (t : TypeDefinition) (v : TypeVerdict) :
    List Incomparable :=
  (v.entries t).filterMap fun (i, _, verdict) =>
    match verdict with
    | .incomparable cause => some ⟨position, i, cause⟩
    | _ => none

/-- What is noted about the methods of a type. -/
def logs (t : TypeDefinition) (v : TypeVerdict) : List LogRecord :=
  (v.entries t).filterMap fun (_, m, verdict) =>
    match verdict with
    | .incomparable cause => some (.warn (m.fullName ++ " not compared: " ++ cause.message))
    | .compared body =>
      if body.isChanged then some (.debug (m.fullName ++ " changed: " ++ body.display)) else none
    | _ => none

end TypeVerdict

namespace UnitDiff

/-- What has changed from an older build to a newer one, exclusions left out. -/
def between (exclusions : List Exclusion) (old new : CompiledUnit) : UnitDiff :=
  let judged := new.types.zipIdx.map fun (t, i) => (i, t, t.verdict exclusions old)
  { changedTypes := judged.filterMap fun (i, t, v) => v.changedType? i t
    unmatched := judged.flatMap fun (i, t, v) => v.unmatchedItems i t
    incomparable := judged.flatMap fun (i, t, v) => v.incomparableMethods i t
    logs := judged.flatMap fun (_, t, v) => v.logs t }

/-- Whether anything has changed. -/
def hasChanges (d : UnitDiff) : Bool :=
  !d.changedTypes.isEmpty

/-- The full names of the types with changed methods. -/
def changedNames (d : UnitDiff) : List String :=
  d.changedTypes.map fun t => t.type.fullName

/-- The changes of the type with a full name. -/
def changedType? (d : UnitDiff) (fullName : String) : Option ChangedType :=
  d.changedTypes.find? fun t => t.type.fullName = fullName

/-- How many methods have changed. -/
def methodCount (d : UnitDiff) : Nat :=
  (d.changedTypes.flatMap ChangedType.methods).length

end UnitDiff

end BuildDrift
