/-!
# Wildcards

In a wildcard pattern a star stands for any run of characters and a question mark for one
character, line feeds excepted; every other character stands for itself. The whole name has to be
used up. A wildcard pattern is matched as the regular expression that says the same.

## Main definitions

* `Glob`: a wildcard pattern as a list of items; `Glob.ofText` reads one.
* `Glob.Accepts`: which names a wildcard pattern stands for.
* `Glob.translation`: the text of the regular expression for a wildcard pattern.
-/

namespace BuildDrift.Pattern

/-- An item of a wildcard pattern. -/
inductive GlobItem where
  /-- Any run of characters without line feeds, possibly empty. -/
  | run
  /-- One character other than a line feed. -/
  | one
  /-- The character itself. -/
  | char (c : Char)
  deriving DecidableEq, Repr, Inhabited

/-- A wildcard pattern. -/
abbrev Glob := List GlobItem

namespace Glob

/-- The item that a character of a pattern is. -/
def itemOf : Char → GlobItem
  | '*' => .run
  | '?' => .one
  | c => .char c

/-- The wildcard pattern of a text. -/
def ofText (text : String) : Glob :=
  text.toList.map itemOf

/-- Which names a wildcard pattern stands for. -/
inductive Accepts : Glob → List Char → Prop where
  /-- Nothing stands for the empty name. -/
  | nil : Accepts [] []
  /-- A run may end. -/
  | endRun {rest : Glob} {cs : List Char} : Accepts rest cs → Accepts (.run :: rest) cs
  /-- A run may take one more character. -/
  | goOn {rest : Glob} {c : Char} {cs : List Char} :
      c ≠ '\n' → Accepts (.run :: rest) cs → Accepts (.run :: rest) (c :: cs)
  /-- A question mark takes one character. -/
  | one {rest : Glob} {c : Char} {cs : List Char} :
      c ≠ '\n' → Accepts rest cs → Accepts (.one :: rest) (c :: cs)
  /-- A character takes itself. -/
  | char {rest : Glob} {c : Char} {cs : List Char} :
      Accepts rest cs → Accepts (.char c :: rest) (c :: cs)

/-! ### Translation -/

/-- The characters that regular expressions give a meaning of their own. -/
def metaCharacters : List Char :=
  ['\\', '.', '+', '*', '?', '(', ')', '|', '[', ']', '\x7b', '\x7d', '^', '$', '#', '&', '-', '~']

/-- A character that stands for itself, as it is written in a regular expression. -/
def escaped (c : Char) : List Char :=
  if metaCharacters.contains c then ['\\', c] else [c]

/-- An item as it is written in a regular expression. -/
def itemText : GlobItem → List Char
  | .run => ['.', '*']
  | .one => ['.']
  | .char c => escaped c

/-- The text of the regular expression for a pattern. It is tied to both ends of the name. -/
def translation (g : Glob) : String :=
  String.ofList ('^' :: g.flatMap itemText ++ ['$'])

end Glob

end BuildDrift.Pattern
