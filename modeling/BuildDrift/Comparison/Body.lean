import BuildDrift.Code.Index

/-!
# Comparing bodies

Two bodies are the same if they hold the same instructions in the same order, wherever these
stand. Where an operation goes to is therefore compared by destination and not by offset: the
position of an operation, the end of the body, or, if the target is neither, the offset itself.

## Main definitions

* `Destination`: where a target leads, and `Body.destination`.
* `BodyVerdict`: the outcomes; `Body.compare` finds the first difference.
-/

namespace BuildDrift

/-- Where a branch target leads. -/
inductive Destination where
  /-- To the operation at a position. -/
  | position (index : Nat)
  /-- To the end of the body. -/
  | codeEnd
  /-- To an offset at which there is no operation. -/
  | nowhere (offset : Offset)
  deriving DecidableEq, Repr, Inhabited

/-- The outcome of comparing two bodies. -/
inductive BodyVerdict where
  /-- The same instructions in the same order. -/
  | identical
  /-- Different numbers of operations. -/
  | countChanged (old new : Nat)
  /-- The first position at which the operations differ. -/
  | operationChanged (position : Nat)
  deriving DecidableEq, Repr, Inhabited

namespace BodyVerdict

/-- Whether the bodies differ. -/
def isChanged : BodyVerdict → Bool
  | identical => false
  | _ => true

/-- The outcome in words. -/
def display : BodyVerdict → String
  | identical => "identical"
  | countChanged old new => "operation count " ++ toString old ++ " -> " ++ toString new
  | operationChanged position => "operation #" ++ toString position ++ " differs"

end BodyVerdict

namespace Body

/-- The offset behind a body, if it is in range; an empty body ends where it starts. -/
def codeEnd? (body : Body) : Option Offset :=
  match body.getLast? with
  | none => some 0
  | some last => last.endOffset?

/-- Where a target leads, from the positions and the end of its body. -/
def destinationIn (positions : Std.HashMap Offset Nat) (codeEnd : Option Offset)
    (target : Offset) : Destination :=
  match positions[target]? with
  | some i => .position i
  | none => if some target = codeEnd then .codeEnd else .nowhere target

/-- Where a target leads in a body. -/
def destination (body : Body) (target : Offset) : Destination :=
  destinationIn body.positions body.codeEnd? target

/-- Whether two operations do the same, when targets lead to these destinations. -/
def sameOperation (oldDestination newDestination : Offset → Destination) (o p : Operation) : Bool :=
  match o.operand, p.operand with
  | .target a, .target b => o.kind = p.kind ∧ oldDestination a = newDestination b
  | _, _ => o.Agrees p

/-- The first position, counted from `i`, at which operations differ. -/
def firstDifference (same : Operation → Operation → Bool) (i : Nat) :
    Body → Body → Option Nat
  | o :: old, p :: new => if same o p then firstDifference same (i + 1) old new else some i
  | _, _ => none

/-- Compares two bodies. -/
def compare (old new : Body) : BodyVerdict :=
  if old.length ≠ new.length then .countChanged old.length new.length
  else
    let oldDestination := destinationIn old.positions old.codeEnd?
    let newDestination := destinationIn new.positions new.codeEnd?
    match firstDifference (sameOperation oldDestination newDestination) 0 old new with
    | none => .identical
    | some i => .operationChanged i

end Body

end BuildDrift
