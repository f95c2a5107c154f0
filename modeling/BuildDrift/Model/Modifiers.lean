import BuildDrift.Json.Decoder
import BuildDrift.Json.Value
import BuildDrift.Text.Blank

/-!
# Modifiers

Types, methods and fields carry a word of modifier bits. Some bits have names, which differ
between the three; the others are kept as they are. In documents a word is written as the names of
its bits joined by bars, followed by the bits without a name as one hexadecimal number.

## Main definitions

* `Modifiers`: a word of bits, with the operations on it.
* `Modifiers.Names`: the named bits of one kind of item: `ofType`, `ofMethod` and `ofField`.
* `Modifiers.parse`, `Modifiers.render`: the written form.
-/

namespace BuildDrift

/-- A word of modifier bits. -/
structure Modifiers where
  /-- The bits. -/
  bits : UInt32
  deriving DecidableEq, Repr, Inhabited

namespace Modifiers

/-- No bit. -/
def empty : Modifiers := ⟨0⟩

/-- The bits of either word. -/
def union (m n : Modifiers) : Modifiers := ⟨m.bits ||| n.bits⟩

/-- Whether all the bits of the second word are in the first. -/
def has (m n : Modifiers) : Bool := m.bits &&& n.bits = n.bits

/-- The bits that are in the first word only. -/
def without (m n : Modifiers) : Modifiers := ⟨m.bits &&& ~~~n.bits⟩

/-- Names for some bits, in order. -/
abbrev Names := List (String × Modifiers)

/-- The modifiers of types. -/
def ofType : Names :=
  [("INTERFACE", ⟨0x20⟩), ("ABSTRACT", ⟨0x80⟩), ("SEALED", ⟨0x100⟩), ("VALUE_TYPE", ⟨0x10000⟩)]

/-- The bit of types whose values are stored directly. -/
def valueType : Modifiers := ⟨0x10000⟩

/-- The modifiers of methods. -/
def ofMethod : Names :=
  [("STATIC", ⟨0x10⟩), ("FINAL", ⟨0x20⟩), ("VIRTUAL", ⟨0x40⟩), ("ABSTRACT", ⟨0x400⟩),
    ("SPECIAL_NAME", ⟨0x800⟩)]

/-- The bit of members that belong to the type and not to its objects. -/
def staticMember : Modifiers := ⟨0x10⟩

/-- The modifiers of fields. -/
def ofField : Names :=
  [("STATIC", ⟨0x10⟩), ("INIT_ONLY", ⟨0x20⟩), ("LITERAL", ⟨0x40⟩), ("SPECIAL_NAME", ⟨0x200⟩)]

namespace Names

/-- Every bit that has a name. -/
def all (names : Names) : Modifiers :=
  names.foldl (fun m entry => m.union entry.2) empty

/-- The bit with a name. -/
def find? (names : Names) (name : String) : Option Modifiers :=
  (List.find? (fun entry => entry.1 = name) names).map Prod.snd

end Names

/-- The word without the bits that have no name. -/
def truncate (names : Names) (m : Modifiers) : Modifiers :=
  ⟨m.bits &&& names.all.bits⟩

/-! ### The written form -/

/-- Why a text is no word of modifiers. -/
inductive Fault where
  /-- Two bars, or a bar at an end, without a flag between. -/
  | emptyFlag
  /-- A number that is not hexadecimal or too great. -/
  | badNumber
  /-- A name that no bit has. -/
  | unknownName
  deriving DecidableEq, Repr, Inhabited

/-- The wording of a fault. -/
def Fault.message : Fault → String
  | emptyFlag => "encountered empty flag"
  | badNumber => "invalid hex flag"
  | unknownName => "unrecognized named flag"

/-- A hexadecimal number of 32 bits, possibly with a plus sign. -/
def number? (cs : List Char) : Option Modifiers :=
  let digits := match cs with
    | '+' :: rest => rest
    | rest => rest
  (Hex.read? digits).bind fun n => if n < UInt32.size then some ⟨UInt32.ofNat n⟩ else none

/-- One flag, without blanks around it. -/
def flag (names : Names) : List Char → Except Fault Modifiers
  | [] => .error .emptyFlag
  | '0' :: 'x' :: digits =>
    match number? digits with
    | some m => .ok m
    | none => .error .badNumber
  | cs =>
    match names.find? (String.ofList cs) with
    | some m => .ok m
    | none => .error .unknownName

/-- The parts of a text between bars. -/
def parts : List Char → List (List Char)
  | [] => [[]]
  | c :: cs =>
    if c = '|' then [] :: parts cs
    else match parts cs with
      | [] => [[c]]
      | first :: rest => (c :: first) :: rest

/-- The word that a text stands for. -/
def parse (names : Names) (text : String) : Except Fault Modifiers :=
  if Blank.isAllBlank text.toList then .ok empty
  else (parts text.toList).foldlM (fun m p => (flag names (Blank.trim p)).map m.union) empty

/-- The flags that make up the word: names in order, then the bits without a name. -/
def flags (names : Names) (m : Modifiers) : List String :=
  let named := names.filter fun entry => m.has entry.2
  let rest := m.without names.all
  named.map Prod.fst ++ (if rest.bits = 0 then [] else ["0x" ++ Hex.lower rest.bits.toNat])

/-- The text of a word. -/
def render (names : Names) (m : Modifiers) : String :=
  String.intercalate " | " (flags names m)

/-- Reads a word. -/
def decode (names : Names) : Json.Decoder Modifiers
  | .atom (.text (.ok s)) =>
    match parse names s with
    | .ok m => .ok m
    | .error f => .error (.mismatch f.message)
  | node => Json.Decoder.refuse "a string value of `|` separated flags" node

/-- A word as it is written. -/
def toValue (m : Modifiers) (names : Names) : Json.Value :=
  .text (render names m)

end Modifiers

end BuildDrift
