import BuildDrift.Code.Document
import BuildDrift.Error

/-!
# The recording API

Instrumented bodies report what they do by calling the four static entry points of a recording
type: one when a test starts, one when it ends, one for constructions and for calls whose result
is not used, and one for calls together with their results.

## Main definitions

* `RecordingApi`: references to the entry points.
* `RecordingApi.standard`, `RecordingApi.make`: the entry points of the usual type and of any other.
* `RecordingApi.validate`: every entry point is named.
-/

namespace BuildDrift

open Json

/-- References to the entry points of a recording type. -/
structure RecordingApi where
  /-- Opens the record of a test; takes its name. -/
  startTest : MethodRef
  /-- Closes the record of a test. -/
  endTest : MethodRef
  /-- Records a construction or a call without its result; takes the object and the callee. -/
  recordCall : MethodRef
  /-- Records a call with its result; takes the object, the result and the callee. -/
  recordResult : MethodRef
  deriving DecidableEq, Repr

namespace RecordingApi

/-- The entry points of a type, under their usual names. -/
def ofType (type : TypeRef) : RecordingApi where
  startTest := ⟨type, "StartTest", [.string], none, false⟩
  endTest := ⟨type, "EndTest", [], none, false⟩
  recordCall := ⟨type, "RecordVoidInstanceCall", [.object, .string], none, false⟩
  recordResult := ⟨type, "RecordInstanceCall", [.object, .object, .string], none, false⟩

/-- The entry points of the usual type. -/
def standard : RecordingApi :=
  ofType ⟨"Regression.Tracing", "TraceRecorder", false⟩

instance : Inhabited RecordingApi := ⟨standard⟩

/-- The entry points of a type that is given by name; a type without a name is refused. -/
def make (space name : String) : Except Error RecordingApi :=
  if name.isEmpty then .error (.invalidArgument .emptyApiName)
  else .ok (ofType ⟨space, name, false⟩)

/-- The entry points, in order. -/
def entryPoints (api : RecordingApi) : List MethodRef :=
  [api.startTest, api.endTest, api.recordCall, api.recordResult]

/-- Whether a method is one of the entry points. -/
def isEntryPoint (api : RecordingApi) (m : MethodRef) : Bool :=
  api.entryPoints.contains m

/-- An entry point has a name, and so has its type. -/
def validateEntryPoint (m : MethodRef) : Except Error Unit :=
  if m.name.isEmpty || m.declaringType.name.isEmpty then
    .error (.invalidArgument (.emptySymbol m.signature))
  else .ok ()

/-- Every entry point is named; the first that is not is refused. -/
def validate (api : RecordingApi) : Except Error Unit :=
  api.entryPoints.forM validateEntryPoint

/-! ### Documents -/

/-- The fields of a recording API. -/
def fields : Fields [MethodRef, MethodRef, MethodRef, MethodRef] :=
  .cons ⟨"start_test", MethodRef.decode, none⟩ <| .cons ⟨"end_test", MethodRef.decode, none⟩ <|
    .cons ⟨"record_void_instance_call", MethodRef.decode, none⟩ <|
    .cons ⟨"record_instance_call", MethodRef.decode, none⟩ .nil

/-- Reads a recording API. -/
def decode : Decoder RecordingApi := fun node =>
  (fields.decode "RecordingApi" node).map fun (startTest, endTest, recordCall, recordResult, ()) =>
    ⟨startTest, endTest, recordCall, recordResult⟩

/-- A recording API as it is written. -/
def toValue (api : RecordingApi) : Value :=
  .record [("start_test", api.startTest.toValue), ("end_test", api.endTest.toValue),
    ("record_void_instance_call", api.recordCall.toValue),
    ("record_instance_call", api.recordResult.toValue)]

end RecordingApi

end BuildDrift
