import BuildDrift.Json.Decoder

/-!
# Records of given fields

A record type is described by its fields in order: the name of each, how its value is read, and
what it is when left out. A document gives a record as members in any order, or as a list of the
values in the order of the fields. Members of other names are passed over.

## Main definitions

* `Field`, `Fields`: the description of a record type.
* `Fields.Values`: a value for each field.
* `Fields.decode`: reads a record given either way.
-/

namespace BuildDrift.Json

/-- One field of a record. -/
structure Field (α : Type) where
  /-- The name of the field. -/
  name : String
  /-- How its value is read. -/
  read : Decoder α
  /-- Its value when left out; a field without one has to be given. -/
  absent : Option α := none

/-- The fields of a record, in order, with the types of their values. -/
inductive Fields : List Type → Type 1 where
  /-- No field. -/
  | nil : Fields []
  /-- A field in front of others. -/
  | cons {α : Type} {types : List Type} (field : Field α) (rest : Fields types) :
      Fields (α :: types)

namespace Fields

/-- A value for each field. -/
@[reducible] def Values : List Type → Type
  | [] => Unit
  | α :: types => α × Values types

/-- The values of the fields met so far. -/
@[reducible] def Met : List Type → Type
  | [] => Unit
  | α :: types => Option α × Met types

/-- No field met. -/
def noneMet : (types : List Type) → Met types
  | [] => ()
  | _ :: types => (none, noneMet types)

/-- The number of fields. -/
def count {types : List Type} (_ : Fields types) : Nat :=
  types.length

/-! ### Members in any order -/

/-- Reads a member, if it is a field; a field may not be met twice. -/
def meet {types : List Type} :
    Fields types → String → Node → Met types → Option (Except Fault (Met types))
  | nil, _, _, _ => none
  | cons field rest, key, node, (value, met) =>
    if key = field.name then
      some (if value.isSome then .error (.mismatch ("duplicate field `" ++ key ++ "`"))
        else (field.read node).map fun v => (some v, met))
    else (rest.meet key node met).map fun result => result.map fun met => (value, met)

/-- Reads one member; one that is no field is passed over. -/
def member {types : List Type} (fields : Fields types) (met : Met types) :
    Key × Node → Except Fault (Met types)
  | (.text (.error f), _) => .error f
  | (.odd token, _) => .error token.keyFault
  | (.text (.ok key), node) =>
    match fields.meet key node met with
    | some result => result
    | none =>
      match node.fault? with
      | some f => .error f
      | none => .ok met

/-- The value of every field, once all members are read. -/
def complete {types : List Type} : Fields types → Met types → Except Fault (Values types)
  | nil, _ => .ok ()
  | cons field rest, (value, met) =>
    match value, field.absent with
    | some v, _ | none, some v => (rest.complete met).map fun vs => (v, vs)
    | none, none => .error (.mismatch ("missing field `" ++ field.name ++ "`"))

/-! ### Values in order -/

/-- The words for a record with this many elements. -/
def elements (what : String) (n : Nat) : String :=
  what ++ " with " ++ toString n ++ (if n = 1 then " element" else " elements")

/-- The fault of a list with too few values. -/
def tooShort (length : Nat) (what : String) (count : Nat) : Fault :=
  .mismatch ("invalid length " ++ toString length ++ ", expected " ++ elements what count)

/-- Reads the values in order. `stop` is the fault that ended the list, `short` gives the fault of
a list that ends after a number of values. -/
def inOrder {types : List Type} (stop : Option Fault) (short : Nat → Fault) :
    Fields types → Nat → List Node → Except Fault (Values types)
  | nil, _, [] => Decoder.ended stop ()
  | nil, _, _ :: _ => .error .grammar
  | cons field rest, n, node :: nodes =>
    (field.read node).bind fun v => (rest.inOrder stop short (n + 1) nodes).map fun vs => (v, vs)
  | cons field rest, n, [] =>
    match stop, field.absent with
    | some f, _ => .error f
    | none, some v => (rest.inOrder stop short (n + 1) []).map fun vs => (v, vs)
    | none, none => .error (short n)

/-! ### Either way -/

/-- Reads the fields of a record type called `name`. -/
def decode {types : List Type} (name : String) (fields : Fields types) : Decoder (Values types)
  | .record members stop =>
    (members.foldlM fields.member (noneMet types)).bind fun met =>
      (Decoder.ended stop met).bind fields.complete
  | .list items stop =>
    fields.inOrder stop (fun n => tooShort n ("struct " ++ name) fields.count) 0 items
  | node => Decoder.refuse ("struct " ++ name) node

end Fields

end BuildDrift.Json
