import BuildDrift.Code.Index

/-!
# Building bodies

A body is built by appending operations, each at the offset behind the one before, and by marking
positions with labels. A branch may go to a label that is marked later; when the body is complete,
every such branch gets the position of its label. Labels are of any type whose values can be told
apart.

## Main definitions

* `BodyBuilder`: what has been appended, the position, the labels and the open branches.
* `BodyBuilder.append`, `appendTo`, `skip`, `mark`: the steps.
* `BodyBuilder.build`: the body, or the first label that is missing.
-/

namespace BuildDrift

/-- A body in the making. -/
structure BodyBuilder (Label : Type) where
  /-- The operations appended so far. -/
  appended : Array Operation := #[]
  /-- The offset of the next operation. -/
  position : Offset := 0
  /-- The labels marked so far with their positions, the latest first. -/
  labels : List (Label × Offset) := []
  /-- The operations that go to a label, by position in the body, the latest first. -/
  pending : List (Nat × Label) := []
  deriving Inhabited

namespace BodyBuilder

variable {Label : Type} (b : BodyBuilder Label)

/-- Nothing appended yet. -/
def empty : BodyBuilder Label := {}

/-- Appends an operation at the current position. -/
def append (kind : OpKind) (operand : Operand := .none) : BodyBuilder Label :=
  { b with
    appended := b.appended.push ⟨b.position, kind, operand⟩
    position := b.position.advance (Operation.sizeOf kind operand) }

/-- Appends an operation like another one. -/
def appendLike (o : Operation) : BodyBuilder Label :=
  b.append o.kind o.operand

/-- Leaves bytes free. -/
def skip (bytes : UInt32) : BodyBuilder Label :=
  { b with position := b.position.advance bytes.toNat }

/-- Appends an operation that goes to a label. -/
def appendTo (kind : OpKind) (label : Label) : BodyBuilder Label :=
  { b with pending := (b.appended.size, label) :: b.pending }.append kind (.target 0)

/-- The offset of the last operation. -/
def lastOffset? : Option Offset :=
  b.appended.back?.map Operation.offset

section Labels

variable [DecidableEq Label]

/-- The position of a label. -/
def position? (label : Label) : Option Offset :=
  b.labels.lookup label

/-- Marks the current position with a label, which may not be taken. -/
def mark (label : Label) : Except (LabelFault Label) (BodyBuilder Label) :=
  if (b.position? label).isSome then .error (.duplicate label)
  else .ok { b with labels := (label, b.position) :: b.labels }

/-- Gives the operation at a position the position of a label as its target. -/
def resolve (body : Array Operation) (branch : Nat × Label) :
    Except (LabelFault Label) (Array Operation) :=
  match b.position? branch.2 with
  | none => .error (.undefined branch.2)
  | some target => .ok (body.modify branch.1 fun o => { o with operand := .target target })

/-- The body with every branch going to the position of its label. -/
def build : Except (LabelFault Label) Body :=
  (b.pending.reverse.foldlM b.resolve b.appended).map Array.toList

end Labels

/-! ### Single operations -/

/-- Appends a call. -/
def call (m : MethodRef) : BodyBuilder Label := b.append .call (.method m)

/-- Appends a call by dynamic type. -/
def callVirt (m : MethodRef) : BodyBuilder Label := b.append .callVirt (.method m)

/-- Appends a construction. -/
def newObj (m : MethodRef) : BodyBuilder Label := b.append .newObj (.method m)

/-- Appends a load of a local variable. -/
def loadLocal (slot : UInt16) : BodyBuilder Label := b.append .loadLocal (.slot slot)

/-- Appends a store into a local variable. -/
def storeLocal (slot : UInt16) : BodyBuilder Label := b.append .storeLocal (.slot slot)

/-- Appends dropping the topmost value. -/
def pop : BodyBuilder Label := b.append .pop

/-- Appends a return. -/
def ret : BodyBuilder Label := b.append .ret

/-- Appends an operation that does nothing. -/
def nop : BodyBuilder Label := b.append (.other 0)

/-- Appends loading a string. -/
def loadString (s : String) : BodyBuilder Label := b.append .loadString (.text s)

/-- Appends boxing a value. -/
def box (t : TypeRef) : BodyBuilder Label := b.append .box (.type t)

/-- Appends loading an integer. -/
def loadInt (n : Int) : BodyBuilder Label :=
  b.append (.other 0x20) (.immediate (.int (Int64.ofInt n)))

/-- Appends leaving a protected block. -/
def leave (target : Offset) : BodyBuilder Label := b.append .leave (.target target)

/-- Appends a branch with the given opcode. -/
def branch (opcode : UInt16) (target : Offset) : BodyBuilder Label :=
  b.append (.branch opcode) (.target target)

/-- Appends an unconditional branch. -/
def jump (target : Offset) : BodyBuilder Label := b.branch OpKind.branchAlways target

/-- Appends leaving a protected block, to a label. -/
def leaveTo (label : Label) : BodyBuilder Label := b.appendTo .leave label

/-- Appends a branch with the given opcode, to a label. -/
def branchTo (opcode : UInt16) (label : Label) : BodyBuilder Label :=
  b.appendTo (.branch opcode) label

/-- Appends an unconditional branch, to a label. -/
def jumpTo (label : Label) : BodyBuilder Label := b.branchTo OpKind.branchAlways label

end BodyBuilder

end BuildDrift
