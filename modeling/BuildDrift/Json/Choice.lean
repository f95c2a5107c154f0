import BuildDrift.Json.Decoder

/-!
# Choices between named variants

A value that is one of several named variants is given as a string, if the variant holds nothing,
or as a record of one member, whose key is the variant and whose value is what it holds.

## Main definitions

* `Variant`: the name of a variant and what it holds.
* `Choice.decode`: reads one of the variants.
* `Choice.unknown`: the fault of a name that is no variant.
-/

namespace BuildDrift.Json

/-- What a variant holds. -/
inductive Holding (α : Type) where
  /-- Nothing: the variant is this value. -/
  | nothing (value : α)
  /-- A value, read like this. -/
  | something (read : Decoder α)

/-- A variant: its name and what it holds. -/
abbrev Variant (α : Type) := String × Holding α

namespace Choice

variable {α : Type}

/-- The variant of a name. -/
def find? (variants : List (Variant α)) (name : String) : Option (Holding α) :=
  (variants.find? fun v => v.1 = name).map Prod.snd

/-- A list of names as it stands in a fault. -/
def alternatives (names : List String) : String :=
  let quoted := names.map fun n => "`" ++ n ++ "`"
  match quoted with
  | [a] => a
  | [a, b] => a ++ " or " ++ b
  | _ => "one of " ++ String.intercalate ", " quoted

/-- The fault of a name that is none of the variants. -/
def unknown (names : List String) (name : String) : Fault :=
  .mismatch ("unknown variant `" ++ name ++ "`, expected " ++ alternatives names)

/-- A variant given as a string. -/
def bare (variants : List (Variant α)) (name : String) : Except Fault α :=
  match find? variants name with
  | none => .error (unknown (variants.map Prod.fst) name)
  | some (.nothing value) => .ok value
  | some (.something _) =>
    .error (.mismatch "invalid type: unit variant, expected newtype variant")

/-- A variant given as the member of a record. -/
def holding (variants : List (Variant α)) (name : String) (node : Node) : Except Fault α :=
  match find? variants name with
  | none => .error (unknown (variants.map Prod.fst) name)
  | some (.nothing value) => (Decoder.null node).map fun _ => value
  | some (.something read) => read node

/-- The fault of what stands where the name of a variant belongs. -/
def nameFault (found : Except Fault String) : Fault :=
  .unexpected found "variant identifier"

/-- Reads one of the variants. -/
def decode (variants : List (Variant α)) : Decoder α
  | .atom (.text content) => content.bind (bare variants)
  | .atom (.brokenText asked _) => .error asked
  | .atom _ => .error .grammar
  | .missing f => .error f
  | .list .. => .error .grammar
  | .record [] stop => .error (stop.getD .grammar)
  | .record ((.odd token, _) :: _) _ => .error (nameFault token.found)
  | .record ((.text (.error f), _) :: _) _ => .error f
  | .record ((.text (.ok name), node) :: more) stop =>
    (holding variants name node).bind fun value =>
      if more.isEmpty then Decoder.ended stop value else .error .grammar

end Choice

end BuildDrift.Json
