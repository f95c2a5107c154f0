import BuildDrift.Code.Builder
import BuildDrift.Model.Region

/-!
# Laying out a body in groups

An instrumented body is drafted as a list of pieces. Some pieces are operations; others open the
group of an operation of the given body, and the group holds the operations up to the next opening.
What referred to the given operation refers to its group afterwards: targets and the starts of
ranges become the first operation of the group, the ends of ranges its last one. The labels of the
body are texts: a group is marked with the label of its offset, and the end of the body as such.

## Main definitions

* `Goal`: where a relocated operation goes to.
* `Piece`: an operation of the draft, or the opening of a group.
* `Layout.ofPieces`: the pieces laid out one behind the other.
* `Layout.build`: the body; `Layout.moveRegion` moves a region to the groups.
-/

namespace BuildDrift

/-- Where a relocated operation goes to. -/
inductive Goal where
  /-- To the group of the given operation at an offset. -/
  | group (origin : Offset)
  /-- To the end of the body. -/
  | codeEnd
  deriving DecidableEq, Repr, Inhabited

/-- The label of a goal. -/
def Goal.text : Goal → String
  | group origin => origin.label
  | codeEnd => "end"

/-- A piece of a drafted body. -/
inductive Piece where
  /-- Opens the group of the given operation at an offset. -/
  | opening (origin : Offset)
  /-- An operation as it is. -/
  | fixed (kind : OpKind) (operand : Operand)
  /-- An operation that goes to a goal. -/
  | jump (kind : OpKind) (goal : Goal)
  deriving DecidableEq, Repr, Inhabited

/-- Whether the piece is an operation. -/
def Piece.isOperation : Piece → Bool
  | opening _ => false
  | _ => true

/-- The operations that take the place of a given one. -/
structure Group where
  /-- The offset of the given operation. -/
  origin : Offset
  /-- The offset of the first operation of the group. -/
  first : Offset
  /-- The offset of the last operation of the group. -/
  last : Offset
  deriving DecidableEq, Repr, Inhabited

/-- Pieces laid out one behind the other. -/
structure Layout where
  /-- The operations, and the positions of the groups. -/
  body : BodyBuilder String := .empty
  /-- The groups, the latest first. -/
  groups : List Group := []
  deriving Inhabited

namespace Layout

/-- Closes the latest group at the last operation there is. -/
def closed (last? : Option Offset) : List Group → List Group
  | [] => []
  | g :: rest => { g with last := last?.getD g.last } :: rest

/-- Closes the latest group. -/
def close (l : Layout) : Layout :=
  { l with groups := closed l.body.lastOffset? l.groups }

/-- Adds a piece behind the others. A group stays open until the next one is opened. -/
def add (l : Layout) : Piece → Except (LabelFault String) Layout
  | .opening origin =>
    (l.body.mark (Goal.group origin).text).map fun body =>
      ⟨body, ⟨origin, l.body.position, l.body.position⟩ :: l.close.groups⟩
  | .fixed kind operand => .ok { l with body := l.body.append kind operand }
  | .jump kind goal => .ok { l with body := l.body.appendTo kind goal.text }

/-- Lays out pieces one behind the other. A group can be opened only once, and the last one is
closed at the end. -/
def ofPieces (pieces : List Piece) : Except (LabelFault String) Layout :=
  (pieces.foldlM add {}).map close

/-- The group of the given operation at an offset. -/
def group? (l : Layout) (origin : Offset) : Option Group :=
  l.groups.find? fun g => g.origin = origin

/-- Where a range starts that has started at an offset. -/
def start (l : Layout) (offset : Offset) : Offset :=
  (l.group? offset).elim offset Group.first

/-- Where a range ends that has ended at an offset. -/
def stop (l : Layout) (offset : Offset) : Offset :=
  (l.group? offset).elim offset Group.last

/-- Moves the ranges of a region to the groups. -/
def moveRegion (l : Layout) (r : ExceptionRegion) : ExceptionRegion :=
  { r with
    tryStart := l.start r.tryStart
    tryEnd := l.stop r.tryEnd
    handlerStart := l.start r.handlerStart
    handlerEnd := l.stop r.handlerEnd }

/-- The body, in which every goal has got its position. -/
def build (l : Layout) : Except (LabelFault String) Body :=
  (l.body.mark Goal.codeEnd.text).bind fun body => body.build

end Layout

end BuildDrift
