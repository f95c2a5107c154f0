import BuildDrift.Json.Choice
import BuildDrift.Json.Value

/-!
# Visibility

Who can reach a type or member. The first seven values of the access field of an attribute word
are in use; the eighth counts as public.

## Main definitions

* `Visibility`: the levels.
* `Visibility.ofAttributes`: the level that an attribute word holds.
* `Visibility.isExported`: whether code of other units can reach the member.
-/

namespace BuildDrift

/-- Who can reach a type or member. -/
inductive Visibility where
  /-- Nobody by name. -/
  | compilerControlled
  /-- The declaring type. -/
  | priv
  /-- Derived types of the same unit. -/
  | familyAndAssembly
  /-- The same unit. -/
  | assembly
  /-- Derived types. -/
  | family
  /-- Derived types and the same unit. -/
  | familyOrAssembly
  /-- Everybody. -/
  | pub
  deriving DecidableEq, Repr, Inhabited

namespace Visibility

/-- The name of a level in documents. -/
def name : Visibility → String
  | compilerControlled => "CompilerControlled"
  | priv => "Private"
  | familyAndAssembly => "FamilyAndAssembly"
  | assembly => "Assembly"
  | family => "Family"
  | familyOrAssembly => "FamilyOrAssembly"
  | pub => "Public"

/-- The levels, in order. -/
def all : List Visibility :=
  [compilerControlled, priv, familyAndAssembly, assembly, family, familyOrAssembly, pub]

/-- The level in the lowest three bits of an attribute word. -/
def ofAttributes (flags : UInt32) : Visibility :=
  match flags.toNat % 8 with
  | 0 => compilerControlled
  | 1 => priv
  | 2 => familyAndAssembly
  | 3 => assembly
  | 4 => family
  | 5 => familyOrAssembly
  | _ => pub

/-- Whether code of other units can reach the member. -/
def isExported : Visibility → Bool
  | pub | family | familyOrAssembly => true
  | _ => false

/-- Reads a level. -/
def decode : Json.Decoder Visibility :=
  Json.Choice.decode (all.map fun v => (v.name, .nothing v))

/-- A level as it is written. -/
def toValue (v : Visibility) : Json.Value :=
  .text v.name

end Visibility

end BuildDrift
