import BuildDrift.Model.Unit

/-!
# Selections

A selection says which types, methods and fields may be used. Several selections together select
what each of them selects.

## Main definitions

* `Selection`: three predicates.
* `Selection.visible`: what other units can reach.
* `Selection.all`: what every selection of a list selects.
-/

namespace BuildDrift

/-- Which types, methods and fields may be used. -/
structure Selection where
  /-- Whether a type may be used. -/
  hasType : TypeDefinition → Bool
  /-- Whether a method of a type may be used. -/
  hasMethod : TypeDefinition → MethodDefinition → Bool
  /-- Whether a field of a type may be used. -/
  hasField : TypeDefinition → FieldDefinition → Bool

namespace Selection

/-- What other units can reach: visible types, and their visible members. -/
def visible : Selection where
  hasType t := t.visibility.isExported
  hasMethod t m := t.visibility.isExported && m.visibility.isExported
  hasField t f := t.visibility.isExported && f.visibility.isExported

/-- What every selection of a list selects. -/
def all (selections : List Selection) : Selection where
  hasType t := selections.all fun s => s.hasType t
  hasMethod t m := selections.all fun s => s.hasMethod t m
  hasField t f := selections.all fun s => s.hasField t f

end Selection

end BuildDrift
