import BuildDrift.Json.Node
import BuildDrift.Text.Quoted

/-!
# Reading values out of a tree

A `Decoder` turns a tree into a value of some type or gives the first fault in text order. The
decoders of this module read single values and lists; a value of the wrong form is named in the
fault together with what was expected.

## Main definitions

* `Decoder`: the type of readers.
* `Decoder.text`, `bool`, `integer`, `binary64`, `null`: single values.
* `Decoder.list`, `Decoder.optional`: lists, and values that may be absent.
* `Decoder.ofText`: reads a whole text.
-/

namespace BuildDrift.Json

/-- Reads a value out of a tree, or gives the first fault. -/
abbrev Decoder (α : Type) := Node → Except Fault α

/-! ### Naming what was found -/

/-- How a number is named in a fault. -/
def Number.found : Number → String
  | .int n => "integer `" ++ toString n ++ "`"
  | .float x => "floating point `" ++ Decimal.render numberStyle x ++ "`"

/-- How a token is named in a fault, unless it is itself broken. -/
def Token.found : Token → Except Fault String
  | .null => .ok "null"
  | .bool b => .ok ("boolean `" ++ (if b then "true" else "false") ++ "`")
  | .number n =>
    match n.value? with
    | some v => .ok v.found
    | none => .error .grammar
  | .text content => content.map fun s => "string " ++ Quoted.render s
  | .openList => .ok "sequence"
  | .openRecord => .ok "map"
  | .brokenText asked _ => .error asked
  | .brokenWord asked _ => .error asked
  | _ => .error .grammar

/-- How a tree is named in a fault, unless it is broken at its start. -/
def Node.found : Node → Except Fault String
  | .atom token => token.found
  | .list .. => .ok "sequence"
  | .record .. => .ok "map"
  | .missing fault => .error fault

/-- The fault of finding one thing where another was expected. -/
def Fault.unexpected (found : Except Fault String) (expected : String) : Fault :=
  match found with
  | .ok what => .mismatch ("invalid type: " ++ what ++ ", expected " ++ expected)
  | .error f => f

/-! ### Single values -/

namespace Decoder

variable {α : Type}

/-- The fault of a tree that has another form than expected. -/
def refuse (expected : String) : Decoder α := fun node =>
  .error (.unexpected node.found expected)

/-- A string. -/
def text : Decoder String
  | .atom (.text content) => content
  | node => refuse "a string" node

/-- A truth value. -/
def bool : Decoder Bool
  | .atom (.bool b) => .ok b
  | node => refuse "a boolean" node

/-- No value. -/
def null : Decoder Unit
  | .atom .null => .ok ()
  | node => refuse "unit" node

/-- A whole number from `low` to `high`; `expected` names the range. -/
def integer (low high : Int) (expected : String) : Decoder Int
  | .atom (.number n) =>
    match n.value? with
    | some (.int i) =>
      if low ≤ i ∧ i ≤ high then .ok i
      else
        let found := (Number.int i).found
        .error (.mismatch ("invalid value: " ++ found ++ ", expected " ++ expected))
    | some (.float x) => .error (.unexpected (.ok (Number.float x).found) expected)
    | none => .error .grammar
  | node => refuse expected node

/-- A word of 16 bits. -/
def word16 : Decoder UInt16 := fun node =>
  (integer 0 65535 "u16" node).map fun i => UInt16.ofNat i.toNat

/-- A word of 32 bits. -/
def word32 : Decoder UInt32 := fun node =>
  (integer 0 4294967295 "u32" node).map fun i => UInt32.ofNat i.toNat

/-- An integer of 32 bits. -/
def int32 : Decoder Int :=
  integer (-2147483648) 2147483647 "i32"

/-- An integer of 64 bits. -/
def int64 : Decoder Int64 := fun node =>
  (integer (-9223372036854775808) 9223372036854775807 "i64" node).map Int64.ofInt

/-- A floating point number; whole numbers are rounded to one. -/
def binary64 : Decoder Binary64
  | .atom (.number n) =>
    match n.value? with
    | some (.int i) => .ok (Binary64.ofInt i)
    | some (.float x) => .ok x
    | none => .error .grammar
  | node => refuse "f64" node

/-! ### Lists and absent values -/

/-- What is left of a reading once a list or record is read up to where it stops. -/
def ended (stop : Option Fault) (value : α) : Except Fault α :=
  match stop with
  | none => .ok value
  | some f => .error f

/-- A list, item by item. -/
def list (item : Decoder α) : Decoder (List α)
  | .list items stop => (items.mapM item).bind (ended stop)
  | node => refuse "a sequence" node

/-- A value, or none. -/
def optional (value : Decoder α) : Decoder (Option α)
  | .atom .null => .ok none
  | node => (value node).map some

/-- Reads a whole text; nothing but blanks may follow the value. -/
def ofText (value : Decoder α) (s : String) : Except Fault α :=
  let document := Document.ofText s
  (value document.root).bind fun v => if document.isAll then .ok v else .error .grammar

end Decoder

end BuildDrift.Json
