import BuildDrift.Code.Operation
import BuildDrift.Error
import Std.Data.HashMap

/-!
# Looking operations up by offset

Operations differ in size, so the position of an operation in its body is not determined by its
offset. An index over a body with strictly increasing offsets gives the position for an offset,
and with it the neighbours.

## Main definitions

* `Body.checkOrder`: whether offsets are strictly increasing, with the first pair that is not.
* `Body.standsAt`: whether an operation stands at an offset, by halving.
* `BodyIndex.ofBody`: the index of a body with strictly increasing offsets.
* `BodyIndex.position?`, `get?`, `predecessor?`, `successor?`: the look-ups.
-/

namespace BuildDrift

/-- A method body: its operations in order. -/
abbrev Body := List Operation

namespace Body

/-- The first two neighbours whose offsets do not increase are refused. -/
def checkOrder : Body → Except Malformation Unit
  | o :: p :: rest =>
    if p.offset ≤ o.offset then .error (.offsetsNotIncreasing o.offset p.offset)
    else checkOrder (p :: rest)
  | _ => .ok ()

/-- The positions of the operations by offset; of operations at one offset, the last. -/
def positions (body : Body) : Std.HashMap Offset Nat :=
  .ofList (body.zipIdx.map fun (o, i) => (o.offset, i))

/-- Whether an operation stands at an offset, from position `low` up to position `high`. The range
is halved over and over, so the answer is right for strictly increasing offsets. -/
def standsBetween (body : Array Operation) (offset : Offset) (low high : Nat) : Bool :=
  if low < high then
    let middle := (low + high) / 2
    match body[middle]? with
    | none => false
    | some o =>
      if o.offset = offset then true
      else if o.offset < offset then standsBetween body offset (middle + 1) high
      else standsBetween body offset low middle
  else false
termination_by high - low

/-- Whether an operation of a body with strictly increasing offsets stands at an offset. -/
def standsAt (body : Array Operation) (offset : Offset) : Bool :=
  standsBetween body offset 0 body.size

end Body

/-- A body with its positions by offset. -/
structure BodyIndex where
  /-- The operations. -/
  body : Array Operation
  /-- The position of the operation at an offset. -/
  positions : Std.HashMap Offset Nat

namespace BodyIndex

/-- The index of a body whose offsets are strictly increasing. -/
def ofBody (body : Body) : Except Malformation BodyIndex :=
  (Body.checkOrder body).map fun _ => ⟨body.toArray, body.positions⟩

/-- How many operations there are. -/
def size (index : BodyIndex) : Nat :=
  index.body.size

/-- The position of the operation at an offset. -/
def position? (index : BodyIndex) (offset : Offset) : Option Nat :=
  index.positions[offset]?

/-- Whether an operation starts at an offset. -/
def contains (index : BodyIndex) (offset : Offset) : Bool :=
  (index.position? offset).isSome

/-- The operation at an offset. -/
def get? (index : BodyIndex) (offset : Offset) : Option Operation :=
  (index.position? offset).bind fun i => index.body[i]?

/-- The operation in front of the one at an offset. -/
def predecessor? (index : BodyIndex) (offset : Offset) : Option Operation :=
  (index.position? offset).bind fun i => if i = 0 then none else index.body[i - 1]?

/-- The operation behind the one at an offset. -/
def successor? (index : BodyIndex) (offset : Offset) : Option Operation :=
  (index.position? offset).bind fun i => index.body[i + 1]?

end BodyIndex

end BuildDrift
