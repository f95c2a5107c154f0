import BuildDrift.Json.Choice
import BuildDrift.Json.Record

/-!
# Records that name their variant

A value of one of several variants can also be a record one of whose members, the tag, names the
variant, the other members being the fields of the variant; or a list of the name and the values of
the fields. Since the tag may come last, every other value is held until the record has ended. A
value that is held has to be in form, whether it belongs to a field or not, and its lists and
records are not nested beyond a limit.

## Main definitions

* `Node.heldFault?`: why a value cannot be held, if it cannot.
* `TaggedVariant`: a variant with its fields.
* `Tagged.decode`: reads one of the variants.
-/

namespace BuildDrift.Json

/-! ### Holding values -/

/-- Why a key cannot be read, if it cannot. -/
def Key.fault? : Key → Option Fault
  | text (.ok _) => none
  | text (.error f) => some f
  | odd token => some token.keyFault

/-- Why a token cannot be held as a value, if it cannot. -/
def Token.heldFault? (token : Token) : Option Fault :=
  match token.found with
  | .ok _ => none
  | .error f => some f

mutual

/-- Why a value cannot be held, if it cannot; its lists and records are nested at most `depth`
deep. -/
def Node.heldFault? (depth : Nat) : Node → Option Fault
  | .atom token => token.heldFault?
  | .list items stop => if depth = 0 then some .grammar else (itemsFault? (depth - 1) items).or stop
  | .record members stop =>
    if depth = 0 then some .grammar else (membersFault? (depth - 1) members).or stop
  | .missing fault => some fault

/-- Why the items of a list cannot be held, if they cannot. -/
def itemsFault? (depth : Nat) : List Node → Option Fault
  | [] => none
  | node :: rest => (node.heldFault? depth).or (itemsFault? depth rest)

/-- Why the members of a record cannot be held, if they cannot. -/
def membersFault? (depth : Nat) : List (Key × Node) → Option Fault
  | [] => none
  | member :: rest => (memberFault? depth member).or (membersFault? depth rest)

/-- Why a member of a record cannot be held, if it cannot. -/
def memberFault? (depth : Nat) : Key × Node → Option Fault
  | (key, node) => key.fault?.or (node.heldFault? depth)

end

/-! ### Variants -/

/-- A variant: its name, its fields, and the value that it is. -/
structure TaggedVariant (α : Type) where
  /-- The name. -/
  name : String
  /-- The types of the fields. -/
  types : List Type
  /-- The fields. -/
  fields : Fields types
  /-- The value with these fields. -/
  make : Fields.Values types → α

namespace TaggedVariant

variable {α : Type}

/-- The fault of a list with more values than there are fields. -/
def tooLong (length count : Nat) : Fault :=
  .mismatch ("invalid length " ++ toString length ++ ", expected " ++ toString count ++
    (if count = 1 then " element" else " elements") ++ " in sequence")

/-- Reads the fields from members. -/
def ofMembers (v : TaggedVariant α) (members : List (Key × Node)) : Except Fault α :=
  (v.fields.decode v.name (.record members none)).map v.make

/-- Reads the fields in order; `type` is the name of the whole type. -/
def ofItems (type : String) (v : TaggedVariant α) (items : List Node) : Except Fault α :=
  let count := v.fields.count
  let short n := Fields.tooShort n ("struct variant " ++ type ++ "::" ++ v.name) count
  (v.fields.inOrder none short 0 (items.take count)).bind fun values =>
    if count < items.length then .error (tooLong items.length count) else .ok (v.make values)

end TaggedVariant

namespace Tagged

variable {α : Type}

/-- How deep lists and records are nested at most inside a record that names its variant. -/
def nestingLimit : Nat := 126

/-- The variant that a value names. -/
def named (variants : List (TaggedVariant α)) : Node → Except Fault (TaggedVariant α)
  | .atom (.text (.ok name)) =>
    match variants.find? fun v => v.name = name with
    | some v => .ok v
    | none => .error (Choice.unknown (variants.map TaggedVariant.name) name)
  | .atom (.text (.error f)) => .error f
  | node => .error (Choice.nameFault node.found)

/-- What has been read of a record. -/
structure Held (α : Type) where
  /-- The variant, if it has been named. -/
  variant : Option (TaggedVariant α) := none
  /-- The other members, last first. -/
  members : List (Key × Node) := []

/-- Whether a key is the tag. -/
def isTag (tag : String) : Key → Bool
  | .text (.ok name) => name = tag
  | _ => false

/-- Reads one member. -/
def member (tag : String) (variants : List (TaggedVariant α)) (held : Held α) :
    Key × Node → Except Fault (Held α)
  | (key, node) =>
    if isTag tag key then
      if held.variant.isSome then .error (.mismatch ("duplicate field `" ++ tag ++ "`"))
      else (named variants node).map fun v => { held with variant := some v }
    else
      match memberFault? nestingLimit (key, node) with
      | some f => .error f
      | none => .ok { held with members := (key, node) :: held.members }

/-- The fault of a value that names no variant. -/
def untagged (tag : String) : Fault :=
  .mismatch ("missing field `" ++ tag ++ "`")

/-- Reads one of the variants of the type called `type`, named by the member `tag`. -/
def decode (type tag : String) (variants : List (TaggedVariant α)) : Decoder α
  | .record members stop =>
    match members.foldlM (member tag variants) {}, stop with
    | .error f, _ | .ok _, some f => .error f
    | .ok held, none =>
      match held.variant with
      | some v => v.ofMembers held.members.reverse
      | none => .error (untagged tag)
  | .list [] stop => .error (stop.getD (untagged tag))
  | .list (name :: items) stop =>
    match named variants name, (itemsFault? nestingLimit items).or stop with
    | .error f, _ | .ok _, some f => .error f
    | .ok v, none => v.ofItems type items
  | node => Decoder.refuse ("internally tagged enum " ++ type) node

end Tagged

end BuildDrift.Json
