import BuildDrift.Pattern.Expression
import BuildDrift.Unicode.Age
import BuildDrift.Unicode.Boundary
import BuildDrift.Unicode.CaseFolding
import BuildDrift.Unicode.Script

/-!
# Named character classes

Classes can be named in three ways: by one letter behind a backslash, by a name between `[:` and
`:]`, and by a property of the character database. Names of properties and their values are
compared without regard to case, blanks, hyphens and underscores.

## Main definitions

* `CharClass.perl`: digits, blanks and word characters, of ASCII or of every script.
* `CharClass.posix?`: the classes named between brackets.
* `CharClass.property?`, `CharClass.propertyValue?`: the classes of the character database.
-/

namespace BuildDrift.Pattern.CharClass

/-- The characters of ASCII. -/
def ascii : CodePointSet := .range 0 0x7F

/-- The class of a letter behind a backslash, digits, blanks or word characters. -/
def perl (unicode : Bool) (letter : Char) : CodePointSet :=
  match letter, unicode with
  | 'd', true => CharProperty.digit
  | 'd', false => .range 0x30 0x39
  | 's', true => CharProperty.whiteSpace
  | 's', false => ⟨[(0x09, 0x0D), (0x20, 0x20)]⟩
  | _, true => CharProperty.word
  | _, false => asciiWord

/-- The class with a name between brackets and colons. -/
def posix? (name : String) : Option CodePointSet :=
  match name with
  | "alnum" => some ⟨[(0x30, 0x39), (0x41, 0x5A), (0x61, 0x7A)]⟩
  | "alpha" => some ⟨[(0x41, 0x5A), (0x61, 0x7A)]⟩
  | "ascii" => some ascii
  | "blank" => some ⟨[(0x09, 0x09), (0x20, 0x20)]⟩
  | "cntrl" => some ⟨[(0x00, 0x1F), (0x7F, 0x7F)]⟩
  | "digit" => some (.range 0x30 0x39)
  | "graph" => some (.range 0x21 0x7E)
  | "lower" => some (.range 0x61 0x7A)
  | "print" => some (.range 0x20 0x7E)
  | "punct" => some ⟨[(0x21, 0x2F), (0x3A, 0x40), (0x5B, 0x60), (0x7B, 0x7E)]⟩
  | "space" => some ⟨[(0x09, 0x0D), (0x20, 0x20)]⟩
  | "upper" => some (.range 0x41 0x5A)
  | "word" => some asciiWord
  | "xdigit" => some ⟨[(0x30, 0x39), (0x41, 0x46), (0x61, 0x66)]⟩
  | _ => none

/-- A name of a property as it is compared. A leading `is` does not count, except in the name of
the comment property, which would otherwise be taken for a category. -/
def normalize (name : List Char) : String :=
  let (hasIs, rest) := match name with
    | a :: b :: rest =>
      if (a = 'i' ∨ a = 'I') ∧ (b = 's' ∨ b = 'S') then (true, rest) else (false, name)
    | _ => (false, name)
  let kept := (rest.filter fun c => c.toNat < 128 && c != ' ' && c != '_' && c != '-').map
    Char.toLower
  if hasIs ∧ kept = ['c'] then "isc" else String.ofList kept

/-- The general category with a normalized name, with the classes that count as such. -/
def category? (name : String) : Option CodePointSet :=
  match name with
  | "any" => some .all
  | "assigned" => some GeneralCategory.unassigned.complement
  | "ascii" => some ascii
  | _ => GeneralCategory.find? name

/-- The class of a property, category or script given by its name alone. -/
def property? (name : List Char) : Option CodePointSet :=
  let name := normalize name
  (CharProperty.find? name).orElse fun _ =>
    (category? name).orElse fun _ => Script.find? name

/-- The class of the characters for which a property has a value. -/
def propertyValue? (property value : List Char) : Option CodePointSet :=
  let value := normalize value
  match normalize property with
  | "gc" | "generalcategory" => category? value
  | "sc" | "script" => Script.find? value
  | "scx" | "scriptextensions" => Script.findExtension? value
  | "age" => Age.find? value
  | "gcb" | "graphemeclusterbreak" => Boundary.graphemeClass? value
  | "wb" | "wordbreak" => Boundary.wordClass? value
  | "sb" | "sentencebreak" => Boundary.sentenceClass? value
  | _ => none

/-- Adds the characters that equal a member up to case. -/
def closeCase (unicode : Bool) (s : CodePointSet) : CodePointSet :=
  if unicode then CaseFolding.close s
  else
    let shift (a b : Nat) (f : Nat → Nat) : List (Nat × Nat) :=
      (CodePointSet.cut s.ranges a b).map fun r => (f r.1, f r.2)
    CodePointSet.normalize
      ⟨s.ranges ++ shift 0x41 0x5A (· + 32) ++ shift 0x61 0x7A (· - 32)⟩

end BuildDrift.Pattern.CharClass
