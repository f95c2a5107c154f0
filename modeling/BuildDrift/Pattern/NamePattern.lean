import BuildDrift.Error
import BuildDrift.Json.Record
import BuildDrift.Json.Value
import BuildDrift.Pattern.Footprint
import BuildDrift.Pattern.Glob
import BuildDrift.Pattern.Matching
import BuildDrift.Pattern.Parser

/-!
# Patterns for names

Types, members and fields are picked by patterns for their names, of three kinds: the name itself,
a regular expression that has to match some part of the name, and a wildcard pattern.

## Main definitions

* `NamePattern.Kind`: the three kinds.
* `NamePattern`: a pattern that could be read.
* `NamePattern.make`, `NamePattern.parse`: pattern texts, and what is refused.
* `NamePattern.picks`: whether a name is picked.
-/

namespace BuildDrift

open Pattern

/-- How the text of a pattern is understood. -/
inductive NamePattern.Kind where
  /-- As a regular expression that has to match some part of the name. -/
  | regex
  /-- As the name itself. -/
  | exact
  /-- As a wildcard pattern. -/
  | wildcard
  deriving DecidableEq, Repr, Inhabited

namespace NamePattern.Kind

/-- The kinds, in order. -/
def all : List Kind := [regex, exact, wildcard]

/-- The name of a kind. -/
def name : Kind → String
  | regex => "Regex"
  | exact => "ExactString"
  | wildcard => "Wildcard"

/-- The kind with a name. -/
def parse (name : String) : Except Error Kind :=
  match all.find? fun k => k.name = name with
  | some k => .ok k
  | none => .error (.unknownPatternKind name)

end NamePattern.Kind

/-- What a pattern text has been read as. -/
inductive NamePattern.Meaning where
  /-- The name itself. -/
  | exact (name : String)
  /-- A regular expression. -/
  | regex (expression : Marked)

namespace NamePattern.Meaning

/-- Reads the text of a regular expression. -/
def compile? (text : String) : Option Meaning :=
  (Expression.parse? text).bind fun e =>
    if Footprint.fits e then some (regex (Marked.ofExpression e)) else none

/-- Reads a pattern text. -/
def read? (kind : Kind) (text : String) : Option Meaning :=
  match kind with
  | .exact => some (exact text)
  | .regex => compile? text
  | .wildcard => compile? (Glob.ofText text).translation

/-- Whether a name is picked. -/
def picks : Meaning → String → Bool
  | exact expected, name => expected = name
  | regex e, name => e.occursIn name

end NamePattern.Meaning

/-- A pattern for names. -/
structure NamePattern where
  /-- The text. -/
  text : String
  /-- How the text is understood. -/
  kind : NamePattern.Kind
  /-- What the text has been read as. -/
  meaning : NamePattern.Meaning
  /-- The meaning is determined by kind and text. -/
  meaning_eq : NamePattern.Meaning.read? kind text = some meaning

namespace NamePattern

/-- Patterns of one kind and text are equal. -/
theorem ext_text {p q : NamePattern} (text : p.text = q.text) (kind : p.kind = q.kind) : p = q := by
  obtain ⟨t, k, m, h⟩ := p
  obtain ⟨t', k', m', h'⟩ := q
  simp only at text kind
  subst text kind
  simp only [h, Option.some.injEq] at h'
  subst h'
  rfl

instance : DecidableEq NamePattern := fun p q =>
  if h : p.text = q.text ∧ p.kind = q.kind then isTrue (ext_text h.1 h.2)
  else isFalse fun e => h ⟨e ▸ rfl, e ▸ rfl⟩

/-- A pattern of a kind. Empty texts are refused, and texts that are no pattern. -/
def make (text : String) (kind : Kind) : Except Error NamePattern :=
  if text.isEmpty then .error (.invalidArgument (.emptyPattern kind.name))
  else
    match h : Meaning.read? kind text with
    | some meaning => .ok ⟨text, kind, meaning, h⟩
    | none => .error (.invalidPattern text)

/-- A pattern of a kind that is given by name; the name is looked up first. -/
def parse (text kindName : String) : Except Error NamePattern :=
  (Kind.parse kindName).bind (make text)

/-- Whether a name is picked. -/
def picks (p : NamePattern) (name : String) : Bool :=
  p.meaning.picks name

/-- The kind and the text. -/
def display (p : NamePattern) : String :=
  p.kind.name ++ "(" ++ p.text ++ ")"

end NamePattern

end BuildDrift
