import BuildDrift.Instrumentation.Injection
import BuildDrift.Selection.Basic

/-!
# Instrumenting methods

A test method of the expected shape has exactly one exception region, whose bounds are operations.
Records are injected into its body, so that it reports the construction of the object under test
and every call on it. Any other method is returned as it is, with the reason.

## Main definitions

* `PassReason`, `Fate`: why a method is returned as it is, and what becomes of a method.
* `Instrumented`, `InstrumentedUnit`: methods and units with what became of them.
* `Instrumentation`: settings and a selection of methods.
* `Instrumentation.onMethod`, `onMethodOf`, `onUnit`: instrumenting methods and units.
-/

namespace BuildDrift

/-! ### What becomes of methods -/

/-- Why a method is returned as it is. -/
inductive PassReason where
  /-- It has no exception region. -/
  | noRegion
  /-- It has several exception regions. -/
  | severalRegions (count : Nat)
  /-- A bound of its exception region is no operation. -/
  | unalignedRegion
  /-- It is not selected. -/
  | notSelected
  /-- Its body breaks the rules of bodies. -/
  | malformed
  deriving DecidableEq, Repr, Inhabited

/-- The reason in words. -/
def PassReason.message : PassReason → String
  | noRegion => "no exception region"
  | severalRegions count => toString count ++ " exception regions"
  | unalignedRegion => "exception region not aligned to operations"
  | notSelected => "filtered"
  | malformed => "malformed body"

/-- What becomes of a method. -/
inductive Fate where
  /-- Records are injected. -/
  | injected (tally : Tally)
  /-- It is returned as it is. -/
  | passed (reason : PassReason)
  deriving DecidableEq, Repr, Inhabited

namespace Fate

/-- Whether records are injected. -/
def isInjected : Fate → Bool
  | injected _ => true
  | passed _ => false

/-- Why the method is returned as it is, if it is. -/
def reason? : Fate → Option PassReason
  | injected _ => none
  | passed reason => some reason

end Fate

/-- A method, with records injected or as it is. -/
structure Instrumented where
  /-- The method. -/
  method : MethodDefinition
  /-- What became of it. -/
  fate : Fate
  /-- What was noted on the way. -/
  logs : List LogRecord
  deriving DecidableEq, Repr

namespace Instrumented

/-- A method that is returned as it is. -/
def pass (m : MethodDefinition) (reason : PassReason) : Instrumented :=
  ⟨m, .passed reason, [.debug (m.fullName ++ ": passed through, " ++ reason.message)]⟩

/-- A method with records injected. -/
def ofInjection (i : Injection) : Instrumented :=
  ⟨i.method, .injected i.tally, i.logs⟩

/-- A method that is refused, and returned as it is for that reason. -/
def ofError (m : MethodDefinition) (e : Error) : Instrumented :=
  let passed := pass m .malformed
  { passed with
    logs := .warn (m.fullName ++ " not instrumented: " ++ e.message) :: passed.logs }

end Instrumented

/-- A unit with its methods instrumented. -/
structure InstrumentedUnit where
  /-- The unit. -/
  unit : CompiledUnit
  /-- The full name of every method, in order, and what became of it. -/
  fates : List (String × Fate)
  /-- What was noted on the way. -/
  logs : List LogRecord
  deriving DecidableEq, Repr

namespace InstrumentedUnit

/-- Into how many methods records are injected. -/
def injectedCount (u : InstrumentedUnit) : Nat :=
  u.fates.countP fun entry => entry.2.isInjected

/-- The methods that are returned as they are, with the reasons. -/
def passed (u : InstrumentedUnit) : List (String × PassReason) :=
  u.fates.filterMap fun (name, fate) => fate.reason?.map fun reason => (name, reason)

end InstrumentedUnit

/-! ### Instrumenting -/

/-- How methods are instrumented, and which. -/
structure Instrumentation where
  /-- The settings. -/
  config : InstrumentConfig := {}
  /-- The methods that are instrumented; without a selection, all of them. -/
  selection : Option Selection := none

namespace Instrumentation

/-- An instrumentation of all methods with valid settings. -/
def make (config : InstrumentConfig) : Except Error Instrumentation :=
  config.validate.map fun _ => { config }

/-- The instrumentation of the methods of a selection only. -/
def selecting (i : Instrumentation) (selection : Selection) : Instrumentation :=
  { i with selection := some selection }

/-- Whether a method of a type is to be instrumented. -/
def selects (i : Instrumentation) (type : TypeDefinition) (m : MethodDefinition) : Bool :=
  i.selection.all fun s => s.hasMethod type m

/-- Whether every bound of a region is an operation of a body. -/
def isAligned (body : Body) (region : ExceptionRegion) : Bool :=
  let operations := body.toArray
  region.bounds.all fun bound => Body.standsAt operations bound

/-- A method instrumented, or as it is; one that is malformed is refused. -/
def onMethod (i : Instrumentation) (m : MethodDefinition) : Except Error Instrumented := do
  m.validate.mapError .malformed
  match m.regions with
  | [] => return .pass m .noRegion
  | [region] =>
    if isAligned m.operations region then
      return .ofInjection (← m.inject i.config region)
    else return .pass m .unalignedRegion
  | regions => return .pass m (.severalRegions regions.length)

/-- A method of a type instrumented, if it is selected. -/
def onMethodOf (i : Instrumentation) (type : TypeDefinition) (m : MethodDefinition) :
    Except Error Instrumented :=
  if i.selects type m then i.onMethod m
  else (m.validate.mapError .malformed).map fun _ => .pass m .notSelected

/-- The methods of a type instrumented; one that is refused is returned as it is. -/
def onType (i : Instrumentation) (type : TypeDefinition) : List Instrumented :=
  type.methods.map fun m =>
    match i.onMethodOf type m with
    | .ok result => result
    | .error e => .ofError m e

/-- Every method of a unit instrumented. -/
def onUnit (i : Instrumentation) (u : CompiledUnit) : InstrumentedUnit :=
  let types := u.types.map fun t => (t, i.onType t)
  let results := types.flatMap Prod.snd
  { unit := { u with
      types := types.map fun (t, rs) => { t with methods := rs.map Instrumented.method } }
    fates := results.map fun r => (r.method.fullName, r.fate)
    logs := results.flatMap Instrumented.logs }

end Instrumentation

end BuildDrift
