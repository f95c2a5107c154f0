import BuildDrift.Json.Tagged
import BuildDrift.Json.Value

/-!
# Trace events

Running an instrumented test produces events: the test starts, the object under test is
constructed and called, the test ends. Objects and results are recorded as texts.

## Main definitions

* `TraceEvent`: one event.
* `TraceEvent.display`: an event in words.
* `TraceEvent.decode`, `TraceEvent.toValue`: events in documents.
-/

namespace BuildDrift

open Json

/-- One recorded event. -/
inductive TraceEvent where
  /-- A test starts. -/
  | startTest (name : String)
  /-- A construction, or a call whose result is not used. -/
  | plainCall (target signature : String)
  /-- A call and its result. -/
  | resultCall (target value signature : String)
  /-- The test ends. -/
  | endTest
  deriving DecidableEq, Repr, Inhabited

namespace TraceEvent

/-- An event in words. -/
def display : TraceEvent → String
  | startTest name => "start " ++ name
  | plainCall target signature => target ++ "." ++ signature ++ "()"
  | resultCall target value signature => target ++ "." ++ signature ++ "() = " ++ value
  | endTest => "end"

/-- The variants of an event as they stand in documents. -/
def variants : List (TaggedVariant TraceEvent) := [
  ⟨"StartTest", _, .cons ⟨"name", Decoder.text, none⟩ .nil, fun (name, ()) => startTest name⟩,
  ⟨"VoidCall", _,
    .cons ⟨"target", Decoder.text, none⟩ <| .cons ⟨"signature", Decoder.text, none⟩ .nil,
    fun (target, signature, ()) => plainCall target signature⟩,
  ⟨"Call", _,
    .cons ⟨"target", Decoder.text, none⟩ <| .cons ⟨"value", Decoder.text, none⟩ <|
      .cons ⟨"signature", Decoder.text, none⟩ .nil,
    fun (target, value, signature, ()) => resultCall target value signature⟩,
  ⟨"EndTest", _, .nil, fun () => endTest⟩]

/-- Reads an event. -/
def decode : Decoder TraceEvent :=
  Tagged.decode "TraceEvent" "event" variants

/-- An event as it is written. -/
def toValue : TraceEvent → Value
  | startTest name => .record [("event", .text "StartTest"), ("name", .text name)]
  | plainCall target signature =>
    .record [("event", .text "VoidCall"), ("target", .text target), ("signature", .text signature)]
  | resultCall target value signature =>
    .record [("event", .text "Call"), ("target", .text target), ("value", .text value),
      ("signature", .text signature)]
  | endTest => .record [("event", .text "EndTest")]

end TraceEvent

end BuildDrift
