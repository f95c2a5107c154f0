import BuildDrift.Instrumentation.Config
import BuildDrift.Instrumentation.Layout
import BuildDrift.Instrumentation.Temporaries
import BuildDrift.Log

/-!
# How single operations are treated

A body is instrumented in one pass over its operations. How an operation is treated depends on
whether it is protected, on the operation in front of it, and on what the pass has found so far:
the local variable that holds the object under test, and the local variables added.

| protected operation | behind | treatment |
|---|---|---|
| store into a local | construction | the store, then a record of the construction |
| drop of a value | call of a method with a result | the result is kept and recorded |
| any other | call | a record of the call, then the operation |

Every other operation is kept. In front of a return the test is ended. A site at which something
is missing for the record is kept as well, and the obstacle is noted.

## Main definitions

* `Obstacle`: why a site is not recorded.
* `Treatment`: how an operation is treated.
* `Progress.treat`: the treatment of an operation; `Progress.treatAll` treats a body.
* `Treatment.pieces`: what a treatment makes of an operation.
-/

namespace BuildDrift

/-! ### Treatments -/

/-- Why a site is not recorded. -/
inductive Obstacle where
  /-- There is no operation in front of a store. -/
  | noPredecessor
  /-- No object under test has been stored yet. -/
  | noSubject
  /-- The callee is not known. -/
  | noCallee
  /-- A value is dropped behind a call without result. -/
  | noResult
  /-- The variable into which an object is stored is not known. -/
  | noVariable
  /-- There is no slot for one more local variable. -/
  | noSlot
  deriving DecidableEq, Repr, Inhabited

/-- The obstacle in words. -/
def Obstacle.message : Obstacle → String
  | noPredecessor => "no preceding operation"
  | noSubject => "no object under test captured yet"
  | noCallee => "callee is not a method reference"
  | noResult => "void callee followed by pop"
  | noVariable => "store without local operand"
  | noSlot => "no local slot left for the result"

/-- How an operation is treated. -/
inductive Treatment where
  /-- It is kept. -/
  | keep
  /-- It stores the object under test, whose construction is recorded behind it. -/
  | construction (subject : UInt16)
  /-- It is kept behind a record of the call in front of it. -/
  | plainCall (subject : UInt16) (callee : MethodRef)
  /-- Instead of being dropped, the result of the call in front is kept and recorded. -/
  | resultCall (subject temporary : UInt16) (callee : MethodRef) (result : TypeRef)
  /-- It is kept, and what it should have led to is not recorded. -/
  | unrecorded (obstacle : Obstacle)
  deriving DecidableEq, Repr, Inhabited

/-- What a pass has found so far. -/
structure Progress where
  /-- The local variable that holds the object under test. -/
  subject : Option UInt16 := none
  /-- The local variables, added ones included. -/
  temporaries : Temporaries
  deriving DecidableEq, Repr

namespace Progress

/-- The treatment of a protected store. -/
def treatStore (p : Progress) (previous : Option Operation) (o : Operation) :
    Treatment × Progress :=
  match previous with
  | none => (.unrecorded .noPredecessor, p)
  | some before =>
    if before.kind = .newObj then
      match o.slot? with
      | some slot => (.construction slot, { p with subject := some slot })
      | none => (.unrecorded .noVariable, p)
    else (.keep, p)

/-- The treatment of a protected operation, no store, behind a call. -/
def treatAfterCall (p : Progress) (call o : Operation) : Treatment × Progress :=
  match call.method?, p.subject with
  | none, _ => (.unrecorded .noCallee, p)
  | some _, none => (.unrecorded .noSubject, p)
  | some callee, some subject =>
    if o.kind = .pop then
      match callee.returnType with
      | none => (.unrecorded .noResult, p)
      | some result =>
        match p.temporaries.add? result with
        | none => (.unrecorded .noSlot, p)
        | some (slot, temporaries) =>
          (.resultCall subject slot callee result, { p with temporaries })
    else (.plainCall subject callee, p)

/-- The treatment of an operation behind another one. -/
def treat (p : Progress) (inTry : Bool) (previous : Option Operation) (o : Operation) :
    Treatment × Progress :=
  if inTry then
    if o.isStore then p.treatStore previous o
    else
      match previous with
      | some call => if call.kind = .callVirt then p.treatAfterCall call o else (.keep, p)
      | none => (.keep, p)
  else (.keep, p)

/-- The treatments of the operations of a body, in order, behind an operation. -/
def treatAll (inTry : Operation → Bool) (p : Progress) (previous : Option Operation) :
    Body → List (Operation × Treatment) × Progress
  | [] => ([], p)
  | o :: rest =>
    let (treatment, q) := p.treat (inTry o) previous o
    let (treated, r) := q.treatAll inTry (some o) rest
    ((o, treatment) :: treated, r)

end Progress

/-! ### Pieces -/

namespace Piece

/-- A call of a method. -/
def call (m : MethodRef) : Piece := fixed .call (.method m)

/-- A load of a local variable. -/
def loadLocal (slot : UInt16) : Piece := fixed .loadLocal (.slot slot)

/-- A store into a local variable. -/
def storeLocal (slot : UInt16) : Piece := fixed .storeLocal (.slot slot)

/-- A load of a string. -/
def loadString (s : String) : Piece := fixed .loadString (.text s)

end Piece

/-- What targets of the given body are. -/
structure Relocation where
  /-- The given operations by offset. -/
  index : BodyIndex
  /-- The offset behind the given body. -/
  codeEnd : Offset

namespace Relocation

/-- Where a target of the given body leads to; a target that is nothing there leads nowhere. -/
def goal? (r : Relocation) (target : Offset) : Option Goal :=
  if r.index.contains target then some (.group target)
  else if target = r.codeEnd then some .codeEnd
  else none

/-- The piece that keeps an operation. Whatever its kind, a target is relocated. -/
def keep (r : Relocation) (o : Operation) : Piece :=
  match o.target?.bind r.goal? with
  | some goal => .jump o.kind goal
  | none => .fixed o.kind o.operand

/-- What is noted when an operation is kept: a target that leads nowhere. -/
def keepLogs (r : Relocation) (o : Operation) : List LogRecord :=
  match o.target? with
  | some target =>
    if (r.goal? target).isSome then []
    else [.warn (o.offset.label ++ ": " ++ o.kind.mnemonic ++ " targets " ++ target.label ++
      ", which is no operation; target kept")]
  | none => []

end Relocation

namespace Treatment

/-- The record of a construction or of a call without its result. -/
def recordCall (api : RecordingApi) (subject : UInt16) (callee : String) : List Piece :=
  [.loadLocal subject, .loadString callee, .call api.recordCall]

/-- The record of a call and of its result, which is in a local variable. -/
def recordResult (api : RecordingApi) (subject temporary : UInt16) (callee : MethodRef)
    (result : TypeRef) : List Piece :=
  [.loadLocal subject, .loadLocal temporary] ++
    (if result.isValueType then [.fixed .box (.type result)] else []) ++
    [.loadString callee.name, .call api.recordResult]

/-- The group of an operation that is kept; a return is preceded by the end of the test. -/
def keptGroup (api : RecordingApi) (r : Relocation) (o : Operation) : List Piece :=
  .opening o.offset :: ((if o.isReturn then [.call api.endTest] else []) ++ [r.keep o])

/-- What a treatment makes of an operation. A record of the call in front is still part of the
group of that call. -/
def pieces (c : InstrumentConfig) (r : Relocation) (o : Operation) : Treatment → List Piece
  | keep | unrecorded _ => keptGroup c.api r o
  | construction subject =>
    [.opening o.offset, r.keep o] ++ recordCall c.api subject c.constructorSignature
  | plainCall subject callee => recordCall c.api subject callee.name ++ keptGroup c.api r o
  | resultCall subject temporary callee result =>
    [.opening o.offset, .storeLocal temporary] ++
      recordResult c.api subject temporary callee result

/-- What is noted about an operation. -/
def logs (r : Relocation) (o : Operation) : Treatment → List LogRecord
  | resultCall .. => []
  | unrecorded obstacle =>
    let unrecordedLog := .debug (o.listing ++ ": left as is, " ++ obstacle.message)
    if o.isStore then r.keepLogs o ++ [unrecordedLog] else unrecordedLog :: r.keepLogs o
  | _ => r.keepLogs o

end Treatment

end BuildDrift
