import BuildDrift.Instrumentation.RecordingApi

/-!
# Settings of the instrumentation

## Main definitions

* `InstrumentConfig`: the settings; all of them have defaults.
* `InstrumentConfig.validate`: nothing that has to be named is left without a name.
* `InstrumentConfig.fromJson`: reads and validates settings.
-/

namespace BuildDrift

open Json

/-- How methods are instrumented. -/
structure InstrumentConfig where
  /-- What instrumented bodies call. -/
  api : RecordingApi := .standard
  /-- The least stack depth that an instrumented body declares. An injected sequence puts at most
  three values on the stack. -/
  leastMaxStack : UInt16 := 3
  /-- How the names of added local variables begin. -/
  temporaryPrefix : String := "__result"
  /-- What is recorded as the callee of a construction. -/
  constructorSignature : String := ".ctor"
  deriving DecidableEq, Repr, Inhabited

namespace InstrumentConfig

/-- The settings with the entry points of a type that is given by name. -/
def calling (c : InstrumentConfig) (space name : String) : Except Error InstrumentConfig :=
  (RecordingApi.make space name).map fun api => { c with api }

/-- Nothing that has to be named is left without a name; the first that is is refused. -/
def validate (c : InstrumentConfig) : Except Error Unit :=
  if c.temporaryPrefix.isEmpty then .error (.invalidArgument .emptyTemporaryPrefix)
  else if c.constructorSignature.isEmpty then .error (.invalidArgument .emptyConstructorSignature)
  else c.api.validate

/-! ### Documents -/

/-- The fields of settings. -/
def fields : Fields [RecordingApi, UInt16, String, String] :=
  let usual : InstrumentConfig := {}
  .cons ⟨"api", RecordingApi.decode, some usual.api⟩ <|
    .cons ⟨"min_max_stack", Decoder.word16, some usual.leastMaxStack⟩ <|
    .cons ⟨"temp_local_prefix", Decoder.text, some usual.temporaryPrefix⟩ <|
    .cons ⟨"constructor_signature", Decoder.text, some usual.constructorSignature⟩ .nil

/-- Reads settings. -/
def decode : Decoder InstrumentConfig := fun node =>
  (fields.decode "InstrumentConfig" node).map
    fun (api, leastMaxStack, temporaryPrefix, constructorSignature, ()) =>
      ⟨api, leastMaxStack, temporaryPrefix, constructorSignature⟩

/-- Settings as they are written. -/
def toValue (c : InstrumentConfig) : Value :=
  .record [("api", c.api.toValue), ("min_max_stack", .int c.leastMaxStack.toNat),
    ("temp_local_prefix", .text c.temporaryPrefix),
    ("constructor_signature", .text c.constructorSignature)]

/-- The valid settings of a document text. -/
def fromJson (text : String) : Except Error InstrumentConfig := do
  let c ← (Decoder.ofText decode text).mapError .json
  c.validate
  return c

end InstrumentConfig

end BuildDrift
