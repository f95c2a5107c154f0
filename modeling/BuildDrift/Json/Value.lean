import BuildDrift.Json.Numeral
import BuildDrift.Text.Hex

/-!
# Values and their text

What is written as a document is a `Value`. There are two layouts: a compact one without blanks,
and an indented one with an item or member per line. Strings are written as they are, except for
the quote, the backslash and control characters.

## Main definitions

* `Value`: what can be written.
* `Value.compact`, `Value.indented`: the two layouts.
-/

namespace BuildDrift.Json

/-- What can be written as a document. -/
inductive Value where
  /-- No value. -/
  | null
  /-- A truth value. -/
  | bool (value : Bool)
  /-- A whole number. -/
  | int (value : Int)
  /-- A floating point number; one that is not finite is written as no value. -/
  | float (value : Binary64)
  /-- A string. -/
  | text (value : String)
  /-- A list. -/
  | list (items : List Value)
  /-- A record with its members in order. -/
  | record (members : List (String × Value))
  deriving Inhabited

namespace Value

/-- How a character is written inside a string. -/
def escape (c : Char) : List Char :=
  if c = '"' ∨ c = '\\' then ['\\', c]
  else if c = '\x08' then ['\\', 'b']
  else if c = '\t' then ['\\', 't']
  else if c = '\n' then ['\\', 'n']
  else if c = '\x0c' then ['\\', 'f']
  else if c = '\r' then ['\\', 'r']
  else if c < ' ' then '\\' :: 'u' :: (Hex.digits c.toNat).leftpad 4 '0'
  else [c]

/-- A string between quotes. -/
def quoted (s : String) : List Char :=
  '"' :: (s.toList.flatMap escape ++ ['"'])

/-- A value that is written without brackets. -/
def scalar : Value → List Char
  | bool true => "true".toList
  | bool false => "false".toList
  | int n => (toString n).toList
  | float x => if x.isFinite then (Decimal.render numberStyle x).toList else "null".toList
  | text s => quoted s
  | _ => "null".toList

/-! ### The compact layout -/

mutual

/-- The compact text of a value. -/
def compactChars : Value → List Char
  | list items => '[' :: (compactItems items ++ [']'])
  | record members => '\x7b' :: (compactMembers members ++ ['\x7d'])
  | v => scalar v

/-- The items of a list, separated by commas. -/
def compactItems : List Value → List Char
  | [] => []
  | [v] => compactChars v
  | v :: rest => compactChars v ++ ',' :: compactItems rest

/-- The members of a record, separated by commas. -/
def compactMembers : List (String × Value) → List Char
  | [] => []
  | [(key, v)] => quoted key ++ ':' :: compactChars v
  | (key, v) :: rest => quoted key ++ ':' :: (compactChars v ++ ',' :: compactMembers rest)

end

/-- The text of a value in one line, without blanks. -/
def compact (v : Value) : String :=
  String.ofList (compactChars v)

/-! ### The indented layout -/

/-- A new line at a nesting depth. -/
def newLine (depth : Nat) : List Char :=
  '\n' :: List.replicate (2 * depth) ' '

mutual

/-- The indented text of a value at a nesting depth. -/
def indentedChars (depth : Nat) : Value → List Char
  | list [] => ['[', ']']
  | list items =>
    '[' :: (newLine (depth + 1) ++ indentedItems (depth + 1) items ++ newLine depth ++ [']'])
  | record [] => ['\x7b', '\x7d']
  | record members =>
    '\x7b' :: (newLine (depth + 1) ++ indentedMembers (depth + 1) members ++
      newLine depth ++ ['\x7d'])
  | v => scalar v

/-- The items of a list, one a line. -/
def indentedItems (depth : Nat) : List Value → List Char
  | [] => []
  | [v] => indentedChars depth v
  | v :: rest => indentedChars depth v ++ ',' :: (newLine depth ++ indentedItems depth rest)

/-- The members of a record, one a line. -/
def indentedMembers (depth : Nat) : List (String × Value) → List Char
  | [] => []
  | [(key, v)] => quoted key ++ ':' :: ' ' :: indentedChars depth v
  | (key, v) :: rest =>
    quoted key ++ ':' :: ' ' :: (indentedChars depth v ++
      ',' :: (newLine depth ++ indentedMembers depth rest))

end

/-- The text of a value with an item or member per line, indented by two blanks a level. -/
def indented (v : Value) : String :=
  String.ofList (indentedChars 0 v)

end Value

end BuildDrift.Json
