import BuildDrift.Comparison.Run
import BuildDrift.Proofs.Trace.Tests

/-!
# Logs of a single test

A log that consists of a complete test splits into that test, with nothing dropped. Two such logs of
the same test are compared event by event: they match if the events are the same, and otherwise the
first event that differs is reported.

## Main definitions

* `EventLog.ofTest`: the log of a single test.

## Main results

* `TestRun.firstDifference_eq_none_iff`, `TestRun.firstDifference_eq_some`: the first difference.
* `EventLog.tests_ofTest`: the tests of such a log.
* `EventLog.compare_ofTest_self`, `EventLog.compare_ofTest_of_ne`: comparing such logs.
-/

namespace BuildDrift

namespace TestRun

variable {l l' : List TraceEvent}

theorem firstDifference_eq_none_iff : firstDifference l l' = none ↔ l = l' := by
  induction l generalizing l' with
  | nil => cases l' <;> simp [firstDifference]
  | cons e l ih =>
    cases l' with
    | nil => simp [firstDifference]
    | cons e' l' =>
      rw [firstDifference, List.cons.injEq]
      split_ifs with h
      · simp [h, ih]
      · simp [h]

/-- The first difference is where the events differ and nothing in front of them does. -/
theorem firstDifference_eq_some {i : ℕ} (hfront : l.take i = l'.take i) (hi : l[i]? ≠ l'[i]?) :
    firstDifference l l' = some i := by
  induction i generalizing l l' with
  | zero =>
    cases l <;> cases l' <;> simp_all [firstDifference]
  | succ i ih =>
    cases l with
    | nil => cases l' <;> simp_all
    | cons e l =>
      cases l' with
      | nil => simp at hfront
      | cons e' l' =>
        obtain ⟨rfl, hrest⟩ := List.cons.inj hfront
        rw [firstDifference, if_pos rfl, ih hrest hi]
        rfl

end TestRun

namespace EventLog

/-- The log of a test with the events between its start and its end. -/
def ofTest (name : String) (events : List TraceEvent) : EventLog :=
  ⟨.startTest name :: (events ++ [.endTest])⟩

variable {name : String} {events old new : List TraceEvent}

/-- The only test of the log. -/
theorem tests_ofTest (hcalls : ∀ e ∈ events, e.IsCall) :
    (ofTest name events).tests = [⟨name, events ++ [.endTest]⟩] := by
  have hproper : TestRun.Proper ⟨name, events ++ [.endTest]⟩ := ⟨events, hcalls, .inr rfl⟩
  have hlog : ofTest name events = ofTests [⟨name, events ++ [.endTest]⟩] := by
    simp [ofTest, ofTests]
  rw [hlog, tests, split_ofTests (by simpa using hproper)]

/-- Two logs of the same test are compared event by event. -/
theorem compare_ofTest (hold : ∀ e ∈ old, e.IsCall) (hnew : ∀ e ∈ new, e.IsCall) :
    compare (ofTest name old) (ofTest name new) =
      match TestRun.drift? ⟨name, old ++ [.endTest]⟩ ⟨name, new ++ [.endTest]⟩ with
      | none => ⟨1, []⟩
      | some drift => ⟨0, [drift]⟩ := by
  rw [compare, tests_ofTest hold, tests_ofTest hnew]
  cases h : TestRun.drift? ⟨name, old ++ [.endTest]⟩ ⟨name, new ++ [.endTest]⟩ <;>
  simp [RunComparison.pair, RunComparison.ofPairing, RunComparison.pairDrift?, h]

/-- Equal events match. -/
theorem compare_ofTest_self (hcalls : ∀ e ∈ events, e.IsCall) :
    compare (ofTest name events) (ofTest name events) = ⟨1, []⟩ := by
  rw [compare_ofTest hcalls hcalls, TestRun.drift?, TestRun.firstDifference_eq_none_iff.2 rfl]
  rfl

/-- The first event that differs is reported. -/
theorem compare_ofTest_of_ne (hold : ∀ e ∈ old, e.IsCall) (hnew : ∀ e ∈ new, e.IsCall) {k : ℕ}
    {e e' : TraceEvent} (hfront : old.take k = new.take k) (he : old[k]? = some e)
    (he' : new[k]? = some e') (hne : e ≠ e') :
    compare (ofTest name old) (ofTest name new) = ⟨0, [.event name k (some e) (some e')]⟩ := by
  have hget {l : List TraceEvent} {x : TraceEvent} (hx : l[k]? = some x) :
      (l ++ [TraceEvent.endTest])[k]? = some x ∧
        (l ++ [TraceEvent.endTest]).take k = l.take k := by
    have hlt := (List.getElem?_eq_some_iff.1 hx).1
    exact ⟨(List.getElem?_append_left hlt).trans hx,
      List.take_append_of_le_length (Nat.le_of_lt hlt)⟩
  have hdifference : TestRun.firstDifference (old ++ [.endTest]) (new ++ [.endTest]) = some k := by
    refine TestRun.firstDifference_eq_some ?_ ?_
    · rw [(hget he).2, (hget he').2, hfront]
    · rw [(hget he).1, (hget he').1]
      simpa using hne
  rw [compare_ofTest hold hnew, TestRun.drift?, hdifference]
  simp only [Option.map_some, (hget he).1, (hget he').1]

end EventLog

end BuildDrift
