import BuildDrift.Log
import BuildDrift.Text.Blank
import BuildDrift.Text.Lines
import BuildDrift.Trace.Event

/-!
# Trace logs

A log holds events in the order in which they arrived, possibly of several tests. It is kept in a
file with one event a line. A test comprises the events behind its start up to its end, or up to
the start of the next test; events outside of tests are dropped.

## Main definitions

* `EventLog`: a sequence of events; `EventLog.record` adds one.
* `TestRun`, `EventLog.split`: the tests of a log, and the events outside of tests.
* `EventLog.toJsonLines`, `EventLog.fromJsonLines`: writing and reading a log.
-/

namespace BuildDrift

open Json

/-- Events in the order of their arrival. -/
structure EventLog where
  /-- The events. -/
  events : List TraceEvent := []
  deriving DecidableEq, Repr, Inhabited

/-- The events of one test. -/
structure TestRun where
  /-- The name of the test. -/
  name : String
  /-- The events behind the start of the test. -/
  events : List TraceEvent := []
  deriving DecidableEq, Repr, Inhabited

/-- Whether the test has reached its end. -/
def TestRun.isComplete (t : TestRun) : Bool :=
  t.events.getLast? = some .endTest

namespace EventLog

/-- The log with one more event. -/
def record (log : EventLog) (e : TraceEvent) : EventLog :=
  ⟨log.events ++ [e]⟩

/-! ### Tests -/

/-- A log taken apart. -/
structure Split where
  /-- The tests, in order. -/
  tests : List TestRun := []
  /-- The events outside of tests, in order. -/
  dropped : List TraceEvent := []
  deriving DecidableEq, Repr, Inhabited

/-- A test in front of the others. -/
def Split.withTest (s : Split) (t : TestRun) : Split :=
  { s with tests := t :: s.tests }

/-- A dropped event in front of the others. -/
def Split.withDropped (s : Split) (e : TraceEvent) : Split :=
  { s with dropped := e :: s.dropped }

mutual

/-- Takes events apart that are outside of tests up to the next start. -/
def splitOutside : List TraceEvent → Split
  | [] => {}
  | .startTest name :: rest => splitInside name [] rest
  | e :: rest => (splitOutside rest).withDropped e

/-- Takes events apart the first of which belong to the named test; `seen` are the events of that
test so far, last first. -/
def splitInside (name : String) (seen : List TraceEvent) : List TraceEvent → Split
  | [] => { tests := [⟨name, seen.reverse⟩] }
  | .startTest next :: rest => (splitInside next [] rest).withTest ⟨name, seen.reverse⟩
  | .endTest :: rest => (splitOutside rest).withTest ⟨name, (.endTest :: seen).reverse⟩
  | e :: rest => splitInside name (e :: seen) rest

end

/-- The log taken apart. -/
def split (log : EventLog) : Split :=
  splitOutside log.events

/-- The tests of the log. -/
def tests (log : EventLog) : List TestRun :=
  log.split.tests

/-- What is noted when the log is taken apart. -/
def splitLogs (log : EventLog) : List LogRecord :=
  log.split.dropped.map fun e => .warn ("trace event outside of a test dropped: " ++ e.display)

/-! ### Documents -/

/-- The text of the log: an event a line. -/
def toJsonLines (log : EventLog) : String :=
  String.join (log.events.map fun e => e.toValue.compact ++ "\n")

/-- The log of a text. Blank lines are passed over; the first line that is no event is refused. -/
def fromJsonLines (text : String) : Except Fault EventLog :=
  let lines := (Lines.split text.toList).filter fun line => !Blank.isAllBlank line
  (lines.mapM fun line => Decoder.ofText TraceEvent.decode (String.ofList line)).map EventLog.mk

end EventLog

end BuildDrift
