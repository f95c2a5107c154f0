import BuildDrift.Trace.Log

/-!
# Comparing traces

Two logs, recorded against two builds, are compared test by test. Tests are paired by name, those
of the same name in order of occurrence. For every pair that differs, the first event in which it
does is reported; and every test that has no partner.

## Main definitions

* `Drift`: how a test differs.
* `TestRun.firstDifference`: the first position at which events differ.
* `RunComparison.pair`: the pairs of tests.
* `EventLog.compare`: the comparison of two logs.
-/

namespace BuildDrift

/-- How a test differs between two runs. -/
inductive Drift where
  /-- From an event on; a run that has ended there has none. -/
  | event (test : String) (position : Nat) (old new : Option TraceEvent)
  /-- The test was run against the older build only. -/
  | missing (test : String)
  /-- The test was run against the newer build only. -/
  | added (test : String)
  deriving DecidableEq, Repr, Inhabited

namespace Drift

/-- The name of the test. -/
def test : Drift → String
  | event test .. => test
  | missing test => test
  | added test => test

/-- An event, or the end of a trace, in words. -/
def eventText : Option TraceEvent → String
  | some e => e.display
  | none => "<end of trace>"

/-- The drift in words. -/
def display : Drift → String
  | event test position old new =>
    test ++ " #" ++ toString position ++ ": " ++ eventText old ++ " -> " ++ eventText new
  | missing test => test ++ ": not run against new build"
  | added test => test ++ ": not run against old build"

end Drift

/-- The outcome of comparing two logs. -/
structure RunComparison where
  /-- How many tests have identical traces. -/
  matching : Nat := 0
  /-- The tests that differ. -/
  drifts : List Drift := []
  deriving DecidableEq, Repr, Inhabited

namespace TestRun

/-- The first position at which two lists of events differ, or at which only one of them ends. -/
def firstDifference : List TraceEvent → List TraceEvent → Option Nat
  | [], [] => none
  | a :: as, b :: bs => if a = b then (firstDifference as bs).map (· + 1) else some 0
  | _, _ => some 0

/-- How two traces of one test differ, if they do. -/
def drift? (old new : TestRun) : Option Drift :=
  (firstDifference old.events new.events).map fun i =>
    .event old.name i old.events[i]? new.events[i]?

end TestRun

namespace RunComparison

/-- Whether some test differs. -/
def hasDrift (c : RunComparison) : Bool :=
  !c.drifts.isEmpty

/-- Tests of an older run with their partners in a newer one. -/
structure Pairing where
  /-- The older tests in order, with their partners. -/
  pairs : List (TestRun × Option TestRun) := []
  /-- The newer tests without partners, in order. -/
  rest : List TestRun := []
  deriving DecidableEq, Repr, Inhabited

/-- Pairs every test with the first of its name that is still free. -/
def pair : List TestRun → List TestRun → Pairing
  | [], free => { rest := free }
  | old :: olds, free =>
    let partner := free.find? fun t => t.name = old.name
    let pairing := pair olds (free.eraseP fun t => t.name = old.name)
    { pairing with pairs := (old, partner) :: pairing.pairs }

/-- How a test differs from its partner, if it does. -/
def pairDrift? : TestRun × Option TestRun → Option Drift
  | (old, some new) => old.drift? new
  | (old, none) => some (.missing old.name)

/-- The outcome for a pairing. -/
def ofPairing (p : Pairing) : RunComparison where
  matching := p.pairs.countP fun entry => (pairDrift? entry).isNone
  drifts := p.pairs.filterMap pairDrift? ++ p.rest.map fun t => .added t.name

end RunComparison

namespace EventLog

/-- Compares the log of an older run with that of a newer one. -/
def compare (old new : EventLog) : RunComparison :=
  .ofPairing (RunComparison.pair old.tests new.tests)

/-- What is noted when two logs are compared: the newer one is taken apart first. -/
def compareLogs (old new : EventLog) : List LogRecord :=
  new.splitLogs ++ old.splitLogs

end EventLog

end BuildDrift
