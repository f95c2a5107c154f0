import BuildDrift.Code.Document
import BuildDrift.Error

/-!
# Exception regions

A region protects a range of operations by a handler. Both ranges are given by the offsets of
their first and last operation, which belong to them.

## Main definitions

* `ExceptionRegion`: the two ranges, the kind of handler and the type it catches.
* `ExceptionRegion.inTry`, `inHandler`: membership of an offset.
* `ExceptionRegion.validate`: neither range ends before it starts.
-/

namespace BuildDrift

open Json

/-- When a handler runs. -/
inductive HandlerKind where
  /-- On an exception of a type. -/
  | catchType
  /-- On an exception that a filter accepts. -/
  | filter
  /-- Always. -/
  | always
  /-- On any exception. -/
  | fault
  deriving DecidableEq, Repr, Inhabited

namespace HandlerKind

/-- The kinds, in order. -/
def all : List HandlerKind := [catchType, filter, always, fault]

/-- The name of a kind in documents. -/
def name : HandlerKind → String
  | catchType => "Catch"
  | filter => "Filter"
  | always => "Finally"
  | fault => "Fault"

/-- Reads a kind. -/
def decode : Decoder HandlerKind :=
  Choice.decode (all.map fun k => (k.name, .nothing k))

end HandlerKind

/-- A protected range of operations and its handler. -/
structure ExceptionRegion where
  /-- The offset of the first protected operation. -/
  tryStart : Offset
  /-- The offset of the last protected operation. -/
  tryEnd : Offset
  /-- The offset of the first operation of the handler. -/
  handlerStart : Offset
  /-- The offset of the last operation of the handler. -/
  handlerEnd : Offset
  /-- When the handler runs. -/
  kind : HandlerKind
  /-- The type of the exceptions that are caught. -/
  caught : Option TypeRef := none
  deriving DecidableEq, Repr, Inhabited

namespace ExceptionRegion

/-- A region whose handler catches every exception. -/
def catchAll (tryStart tryEnd handlerStart handlerEnd : Offset) : ExceptionRegion :=
  { tryStart, tryEnd, handlerStart, handlerEnd
    kind := .catchType
    caught := some ⟨"System", "Exception", false⟩ }

/-- A region whose handler always runs. -/
def finallyDo (tryStart tryEnd handlerStart handlerEnd : Offset) : ExceptionRegion :=
  { tryStart, tryEnd, handlerStart, handlerEnd, kind := .always }

/-- Whether an offset lies in the protected range. -/
def inTry (r : ExceptionRegion) (o : Offset) : Bool :=
  r.tryStart ≤ o && o ≤ r.tryEnd

/-- Whether an offset lies in the handler. -/
def inHandler (r : ExceptionRegion) (o : Offset) : Bool :=
  r.handlerStart ≤ o && o ≤ r.handlerEnd

/-- The four bounds, in order. -/
def bounds (r : ExceptionRegion) : List Offset :=
  [r.tryStart, r.tryEnd, r.handlerStart, r.handlerEnd]

/-- Neither range ends before it starts. -/
def validate (r : ExceptionRegion) : Except Malformation Unit :=
  if r.tryEnd < r.tryStart then .error (.tryInverted r.tryStart r.tryEnd)
  else if r.handlerEnd < r.handlerStart then .error (.handlerInverted r.handlerStart r.handlerEnd)
  else .ok ()

/-- The fields of a region. -/
def fields : Fields [Offset, Offset, Offset, Offset, HandlerKind, Option TypeRef] :=
  .cons ⟨"try_start", Decoder.word32, none⟩ <| .cons ⟨"try_end", Decoder.word32, none⟩ <|
    .cons ⟨"handler_start", Decoder.word32, none⟩ <|
    .cons ⟨"handler_end", Decoder.word32, none⟩ <| .cons ⟨"kind", HandlerKind.decode, none⟩ <|
    .cons ⟨"catch_type", Decoder.optional TypeRef.decode, some none⟩ .nil

/-- Reads a region. -/
def decode : Decoder ExceptionRegion := fun node =>
  (fields.decode "ExceptionRegion" node).map
    fun (tryStart, tryEnd, handlerStart, handlerEnd, kind, caught, ()) =>
      ⟨tryStart, tryEnd, handlerStart, handlerEnd, kind, caught⟩

/-- A region as it is written. -/
def toValue (r : ExceptionRegion) : Value :=
  .record [("try_start", .int r.tryStart.toNat), ("try_end", .int r.tryEnd.toNat),
    ("handler_start", .int r.handlerStart.toNat), ("handler_end", .int r.handlerEnd.toNat),
    ("kind", .text r.kind.name), ("catch_type", TypeRef.optionToValue r.caught)]

end ExceptionRegion

end BuildDrift
