import BuildDrift.Selection.Basic
import BuildDrift.Pattern.NamePattern

/-!
# What to ignore

Ignore rules are patterns for types, members and fields. Types are picked by their full names,
members and fields by their simple names or by their names qualified with the type. When units are
compared, the patterns for types and members become exclusions, which see a single name: the full
name of a type, the simple name of a method.

## Main definitions

* `IgnoreRules`: the three lists of patterns.
* `IgnoreRules.ignoresType`, `ignoresMethod`, `ignoresField`: what the patterns pick.
* `IgnoreRules.selection`: what no pattern picks.
* `Exclusion`: a pattern for what to leave out when units are compared.
* `IgnoreRules.fromJson`, `toJson`: reading and writing rules.
-/

namespace BuildDrift

open Json

/-! ### Exclusions -/

/-- What an exclusion is about. -/
inductive ItemKind where
  /-- Types, by full name. -/
  | type
  /-- Methods, by simple name. -/
  | method
  deriving DecidableEq, Repr, Inhabited

namespace ItemKind

/-- The kinds, in order. -/
def all : List ItemKind := [type, method]

/-- The name of a kind in documents. -/
def name : ItemKind → String
  | type => "Type"
  | method => "Method"

/-- Reads a kind. -/
def decode : Decoder ItemKind :=
  Choice.decode (all.map fun k => (k.name, .nothing k))

end ItemKind

/-- A pattern for what to leave out of a comparison. -/
structure Exclusion where
  /-- What the pattern is about. -/
  kind : ItemKind
  /-- The pattern. -/
  pattern : NamePattern
  deriving DecidableEq

/-- Whether an item of some kind and name is left out. -/
def Exclusion.covers (e : Exclusion) (kind : ItemKind) (name : String) : Bool :=
  e.kind = kind && e.pattern.picks name

/-! ### Rules -/

/-- Patterns for what to ignore. -/
structure IgnoreRules where
  /-- Patterns for types. -/
  types : List NamePattern := []
  /-- Patterns for methods. -/
  members : List NamePattern := []
  /-- Patterns for fields. -/
  fields : List NamePattern := []
  deriving DecidableEq

namespace IgnoreRules

/-- Whether some pattern picks some of the names. -/
def picksSome (patterns : List NamePattern) (names : List String) : Bool :=
  patterns.any fun p => names.any p.picks

/-- The name of a member qualified with its type. -/
def qualified (typeName name : String) : String :=
  typeName ++ "::" ++ name

/-- Whether a type is to be ignored. -/
def ignoresType (r : IgnoreRules) (fullName : String) : Bool :=
  picksSome r.types [fullName]

/-- Whether a method of a type is to be ignored on its own account. -/
def ignoresMethod (r : IgnoreRules) (typeName name : String) : Bool :=
  picksSome r.members [name, qualified typeName name]

/-- Whether a field of a type is to be ignored on its own account. -/
def ignoresField (r : IgnoreRules) (typeName name : String) : Bool :=
  picksSome r.fields [name, qualified typeName name]

/-- What is not to be ignored; members of ignored types are ignored too. -/
def selection (r : IgnoreRules) : Selection where
  hasType t := !r.ignoresType t.fullName
  hasMethod t m := !r.ignoresType t.fullName && !r.ignoresMethod t.fullName m.name
  hasField t f := !r.ignoresType t.fullName && !r.ignoresField t.fullName f.name

/-- What is left out when units are compared: types first, then methods. -/
def exclusions (r : IgnoreRules) : List Exclusion :=
  r.types.map (⟨.type, ·⟩) ++ r.members.map (⟨.method, ·⟩)

/-! ### Documents -/

/-- A pattern as it stands in a document. -/
abbrev Entry := String × String

/-- The fields of an entry. -/
def entryFields : Fields [String, String] :=
  .cons ⟨"pattern", Decoder.text, none⟩ <| .cons ⟨"kind", Decoder.text, none⟩ .nil

/-- Reads an entry. -/
def decodeEntry : Decoder Entry := fun node =>
  (entryFields.decode "RawExpression" node).map fun (pattern, kind, ()) => (pattern, kind)

/-- The fields of rules. -/
def documentFields : Fields [List Entry, List Entry, List Entry] :=
  .cons ⟨"forbidden_types", Decoder.list decodeEntry, some []⟩ <|
    .cons ⟨"forbidden_members", Decoder.list decodeEntry, some []⟩ <|
    .cons ⟨"forbidden_fields", Decoder.list decodeEntry, some []⟩ .nil

/-- The patterns of a list of entries; the first one that is refused counts. -/
def readPatterns (entries : List Entry) : Except Error (List NamePattern) :=
  entries.mapM fun (pattern, kind) => NamePattern.parse pattern kind

/-- The rules of a document text. The whole document is read before any pattern. -/
def fromJson (text : String) : Except Error IgnoreRules := do
  let (types, members, fields, ()) ←
    (Decoder.ofText (documentFields.decode "RawIgnoreConfig") text).mapError .json
  let types ← readPatterns types
  let members ← readPatterns members
  let fields ← readPatterns fields
  return ⟨types, members, fields⟩

/-- A pattern as it is written. -/
def entryToValue (p : NamePattern) : Value :=
  .record [("pattern", .text p.text), ("kind", .text p.kind.name)]

/-- Rules as they are written. -/
def toValue (c : IgnoreRules) : Value :=
  .record [("forbidden_types", .list (c.types.map entryToValue)),
    ("forbidden_members", .list (c.members.map entryToValue)),
    ("forbidden_fields", .list (c.fields.map entryToValue))]

/-- The document text of rules. -/
def toJson (c : IgnoreRules) : String :=
  c.toValue.indented

end IgnoreRules

end BuildDrift
