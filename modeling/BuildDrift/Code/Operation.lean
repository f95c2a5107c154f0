import BuildDrift.Code.Offset
import BuildDrift.Code.Reference
import BuildDrift.Number.Decimal
import BuildDrift.Text.Quoted

/-!
# Operations

A method body is a list of decoded operations: an offset, a kind and an operand. Kinds that differ
only in the width of their encoding are one kind, and every instruction that nothing here looks
into is `OpKind.other` with its opcode, so that two different ones never compare equal.

## Main definitions

* `Operand`, `OpKind`, `Operation`: the instruction model.
* `Operation.size`, `Operation.endOffset?`: the bytes an operation takes up when laid out.
* `Operation.Agrees`: equality up to the offset.
* `Operation.listing`: an operation as a line of text.
-/

namespace BuildDrift

/-- A constant embedded in an operation. Floating point constants compare by their bits. -/
inductive Immediate where
  /-- An integer of any width. -/
  | int (value : Int64)
  /-- A floating point number of any width. -/
  | float (value : Binary64)
  deriving DecidableEq, Repr, Inhabited

/-- What an operation acts on. -/
inductive Operand where
  /-- Nothing. -/
  | none
  /-- A method, for calls and constructions. -/
  | method (method : MethodRef)
  /-- A local variable slot. -/
  | slot (index : UInt16)
  /-- A string constant. -/
  | text (value : String)
  /-- A type. -/
  | type (type : TypeRef)
  /-- A field. -/
  | field (field : FieldRef)
  /-- An argument of the method. -/
  | argument (index : UInt16)
  /-- A constant. -/
  | immediate (value : Immediate)
  /-- The offset that a branch goes to, within the same body. -/
  | target (offset : Offset)
  deriving DecidableEq, Repr, Inhabited

/-- What an operation does. -/
inductive OpKind where
  /-- Call a method. -/
  | call
  /-- Call a method on an object, by its dynamic type. -/
  | callVirt
  /-- Construct an object. -/
  | newObj
  /-- Load a local variable. -/
  | loadLocal
  /-- Store into a local variable. -/
  | storeLocal
  /-- Drop the topmost value. -/
  | pop
  /-- Return from the method. -/
  | ret
  /-- Load a string constant. -/
  | loadString
  /-- Turn a directly stored value into an object. -/
  | box
  /-- Leave a protected block. -/
  | leave
  /-- Any other branch, with the opcode of its long form. -/
  | branch (opcode : UInt16)
  /-- Any other instruction, with its opcode. -/
  | other (opcode : UInt16)
  deriving DecidableEq, Repr, Inhabited

/-- One instruction of a body. -/
structure Operation where
  /-- Where the operation starts. -/
  offset : Offset
  /-- What it does. -/
  kind : OpKind
  /-- What it acts on. -/
  operand : Operand := .none
  deriving DecidableEq, Repr, Inhabited

/-! ### Operands -/

namespace Operand

/-- Floating point operands never have an exponent, and whole ones no point. -/
def floatStyle : Decimal.Style where
  plain _ := true
  pointZero := false
  tieUp := true

/-- How a floating point operand is written. -/
def floatText (x : Binary64) : String :=
  if x.isNaN then "NaN"
  else if x.isInfinite then (if x.isNegative then "-inf" else "inf")
  else Decimal.render floatStyle x

/-- How the operand is written; no operand is not written at all. -/
def text? : Operand → Option String
  | none => Option.none
  | method m => m.signature
  | slot i => "V_" ++ toString i.toNat
  | text s => Quoted.render s
  | type t => t.fullName
  | field f => f.signature
  | argument i => "A_" ++ toString i.toNat
  | immediate (.int n) => toString n.toInt
  | immediate (.float x) => floatText x
  | target o => o.label

/-- The bytes that the operand takes up behind an opcode that nothing here looks into. -/
def size : Operand → Nat
  | none => 0
  | slot i | argument i => if i.toNat ≤ 255 then 1 else 2
  | immediate (.int n) => if -2147483648 ≤ n.toInt ∧ n.toInt ≤ 2147483647 then 4 else 8
  | immediate (.float _) => 8
  | method _ | text _ | type _ | field _ | target _ => 4

end Operand

/-! ### Kinds -/

namespace OpKind

/-- The opcode of the unconditional branch. -/
def branchAlways : UInt16 := 0x38

/-- The mnemonic of a branch with the given opcode. -/
def branchMnemonic (opcode : UInt16) : String :=
  match opcode.toNat with
  | 0x38 => "br"
  | 0x39 => "brfalse"
  | 0x3A => "brtrue"
  | 0x3B => "beq"
  | 0x3C => "bge"
  | 0x3D => "bgt"
  | 0x3E => "ble"
  | 0x3F => "blt"
  | 0x40 => "bne.un"
  | 0x41 => "bge.un"
  | 0x42 => "bgt.un"
  | 0x43 => "ble.un"
  | 0x44 => "blt.un"
  | n => "br_" ++ Hex.padded 2 n

/-- The mnemonic of the kind. -/
def mnemonic : OpKind → String
  | call => "call"
  | callVirt => "callvirt"
  | newObj => "newobj"
  | loadLocal => "ldloc"
  | storeLocal => "stloc"
  | pop => "pop"
  | ret => "ret"
  | loadString => "ldstr"
  | box => "box"
  | leave => "leave"
  | branch opcode => branchMnemonic opcode
  | other opcode => "op_" ++ Hex.padded 2 opcode.toNat

/-- Whether the operand of the kind is a branch target. -/
def isBranch : OpKind → Bool
  | leave | branch _ => true
  | _ => false

end OpKind

/-! ### Operations -/

namespace Operation

/-- The bytes a load or store of a local variable takes up: the shortest form for its slot. -/
def localSize : Operand → Nat
  | .slot i => if i.toNat ≤ 3 then 1 else if i.toNat ≤ 255 then 2 else 4
  | _ => 1

/-- The bytes that an operation of this kind and operand takes up. Branches take their long form,
so the size never depends on where a label ends up. -/
def sizeOf (kind : OpKind) (operand : Operand) : Nat :=
  match kind with
  | .call | .callVirt | .newObj | .loadString | .box | .leave | .branch _ => 5
  | .loadLocal | .storeLocal => localSize operand
  | .pop | .ret => 1
  | .other opcode => (if 0xFF < opcode.toNat then 2 else 1) + operand.size

/-- The bytes that the operation takes up. -/
def size (o : Operation) : Nat :=
  sizeOf o.kind o.operand

/-- The offset behind the operation, if it is in range. -/
def endOffset? (o : Operation) : Option Offset :=
  o.offset.advance? o.size

/-- Whether two operations do the same, wherever they stand. -/
def Agrees (o p : Operation) : Prop :=
  o.kind = p.kind ∧ o.operand = p.operand

instance (o p : Operation) : Decidable (o.Agrees p) :=
  inferInstanceAs (Decidable (_ ∧ _))

/-- The method that the operation refers to. -/
def method? (o : Operation) : Option MethodRef :=
  match o.operand with
  | .method m => some m
  | _ => none

/-- The local variable slot that the operation refers to. -/
def slot? (o : Operation) : Option UInt16 :=
  match o.operand with
  | .slot i => some i
  | _ => none

/-- The branch target of the operation. -/
def target? (o : Operation) : Option Offset :=
  match o.operand with
  | .target t => some t
  | _ => none

/-- Whether the operation stores into a local variable. -/
def isStore (o : Operation) : Bool :=
  o.kind = .storeLocal

/-- Whether the operation returns from the method. -/
def isReturn (o : Operation) : Bool :=
  o.kind = .ret

/-- The operation as a line of text. -/
def listing (o : Operation) : String :=
  o.offset.label ++ ": " ++ o.kind.mnemonic ++
    (match o.operand.text? with
      | some text => " " ++ text
      | none => "")

end Operation

end BuildDrift
