import BuildDrift.Instrumentation.Tally

/-!
# Injecting records into a method

The instrumented body begins with the start of the test. Behind it come the groups of the given
operations in order, as their treatments say. Targets and regions are moved to the groups, the
locals that have been added are declared, and the declared stack depth is raised if need be.

## Main definitions

* `MethodDefinition.treatments`: the treatments of the operations.
* `MethodDefinition.draft`: the pieces of the instrumented body.
* `MethodDefinition.inject`: the method with records injected.
-/

namespace BuildDrift

/-- A method with records injected. -/
structure Injection where
  /-- The method. -/
  method : MethodDefinition
  /-- What has been injected. -/
  tally : Tally
  /-- What was noted on the way. -/
  logs : List LogRecord
  deriving DecidableEq, Repr

namespace MethodDefinition

/-- The treatments of the operations of a method, and what the pass has found. -/
def treatments (m : MethodDefinition) (c : InstrumentConfig) (region : ExceptionRegion) :
    List (Operation × Treatment) × Progress :=
  Progress.treatAll (fun o => region.inTry o.offset)
    { temporaries := { stem := c.temporaryPrefix, locals := m.locals } } none m.operations

/-- What comes before the first operation: the start of the test, named after the type. -/
def prologue (m : MethodDefinition) (c : InstrumentConfig) : List Piece :=
  [.loadString m.declaringType.name, .call c.api.startTest]

/-- The pieces of the instrumented body. -/
def draft (m : MethodDefinition) (c : InstrumentConfig) (r : Relocation)
    (treated : List (Operation × Treatment)) : List Piece :=
  m.prologue c ++ treated.flatMap fun (o, treatment) => treatment.pieces c r o

/-- What is noted about an instrumented method as a whole. -/
def summary (m : MethodDefinition) (pieces : List Piece) (tally : Tally) : LogRecord :=
  .debug (m.fullName ++ ": " ++ toString (pieces.countP Piece.isOperation) ++
    " operations emitted for " ++ toString m.operations.length ++ " original, " ++
    toString tally.unrecorded.length ++ " site(s) degraded")

/-- The method with records injected; `region` is its exception region. -/
def inject (m : MethodDefinition) (c : InstrumentConfig) (region : ExceptionRegion) :
    Except Error Injection := do
  let index ← (BodyIndex.ofBody m.operations).mapError .malformed
  let r : Relocation := ⟨index, m.codeSize⟩
  let (treated, progress) := m.treatments c region
  let pieces := m.draft c r treated
  let layout ← (Layout.ofPieces pieces).mapError .label
  let operations ← layout.build.mapError .label
  let tally := Tally.ofBody treated
  return {
    method := { m with
      operations
      regions := m.regions.map layout.moveRegion
      locals := progress.temporaries.locals
      maxStack := max m.maxStack c.leastMaxStack }
    tally
    logs := (treated.flatMap fun (o, treatment) => treatment.logs r o) ++
      [m.summary pieces tally] }

end MethodDefinition

end BuildDrift
