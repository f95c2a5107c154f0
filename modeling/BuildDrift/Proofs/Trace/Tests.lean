import BuildDrift.Trace.Log
import Mathlib.Algebra.GroupWithZero.Nat
import Mathlib.Data.List.Basic

/-!
# Every event of a log has its place

Taking a log apart loses and invents nothing. A start opens a test, which holds what comes behind
the start up to the first end, or up to the next start if no end comes first. So an event that is no
start belongs to the latest start in front of it as long as only calls lie between the two, and an
event that belongs to no start is dropped. Since the log is taken apart in one pass, the statements
about it are about a pass from any point on: outside of a test, or inside one of which some calls
have been seen.

## Main definitions

* `TraceEvent.IsCall`: an event within a test.
* `EventLog.Belongs`, `EventLog.Stray`: where an event of a log has its place.
* `EventLog.starts`, `EventLog.select`: the starts of a log, and its events at some positions.
* `TestRun.Proper`: a test as it comes out of a log.
* `EventLog.ofTests`: the log in which some tests follow one another.
* `EventLog.Divided`: what taking a log apart yields.

## Main results

* `EventLog.tests_split`, `EventLog.dropped_split`: the tests, and the events outside of tests.
* `EventLog.split_ofTests`: tests that follow one another are told apart.
* `EventLog.divided`: every event of a log has its place.
-/

namespace BuildDrift

namespace TraceEvent

/-- The event is neither the start nor the end of a test. -/
def IsCall : TraceEvent → Prop
  | plainCall .. | resultCall .. => True
  | _ => False

instance : DecidablePred IsCall
  | plainCall .. | resultCall .. => .isTrue trivial
  | startTest _ | endTest => .isFalse id

/-- The event is the start of a test. -/
def isStart : TraceEvent → Bool
  | startTest _ => true
  | _ => false

theorem IsCall.isStart_eq_false {e : TraceEvent} (h : e.IsCall) : e.isStart = false := by
  cases e with
  | startTest => exact h.elim
  | _ => rfl

/-- An event is a start, an end or a call. -/
theorem start_end_or_call (e : TraceEvent) :
    (∃ name, e = startTest name) ∨ e = endTest ∨ e.IsCall := by
  cases e with
  | startTest name => exact .inl ⟨name, rfl⟩
  | endTest => exact .inr (.inl rfl)
  | _ => exact .inr (.inr trivial)

end TraceEvent

namespace TestRun

open TraceEvent (isStart)

/-- The events of a test are calls, possibly followed by the end. -/
def Proper (t : TestRun) : Prop :=
  ∃ calls : List TraceEvent, (∀ e ∈ calls, e.IsCall) ∧
    (t.events = calls ∨ t.events = calls ++ [.endTest])

variable {t : TestRun}

theorem Proper.inner (h : t.Proper) :
    (∀ e ∈ t.events, ¬isStart e) ∧ .endTest ∉ t.events.dropLast := by
  obtain ⟨calls, hcalls, hevents⟩ := h
  have hstart (e : TraceEvent) (he : e ∈ calls) : ¬isStart e := by
    simp [(hcalls e he).isStart_eq_false]
  have hend : .endTest ∉ calls := fun hmem => hcalls .endTest hmem
  rcases hevents with hevents | hevents
  · rw [hevents]
    exact ⟨hstart, fun hmem => hend (List.dropLast_subset calls hmem)⟩
  · rw [hevents, List.dropLast_concat]
    refine ⟨fun e he => ?_, hend⟩
    rcases List.mem_append.1 he with he | he
    · exact hstart e he
    · rw [List.mem_singleton.1 he]
      simp [isStart]

theorem Proper.isComplete_iff (h : t.Proper) : t.isComplete ↔ .endTest ∈ t.events := by
  obtain ⟨calls, hcalls, hevents⟩ := h
  have hend : .endTest ∉ calls := fun hmem => hcalls .endTest hmem
  rw [isComplete, decide_eq_true_iff]
  rcases hevents with hevents | hevents
  · rw [hevents]
    exact iff_of_false (fun hlast => hend (List.mem_of_getLast? hlast)) hend
  · simp [hevents]

end TestRun

namespace EventLog

open TraceEvent (isStart IsCall)

/-! ### Positions -/

/-- The positions of the starts in a list of events, with the names of the tests. -/
def starts (es : List TraceEvent) : List (ℕ × String) :=
  es.zipIdx.filterMap fun (e, i) =>
    match e with
    | .startTest name => some (i, name)
    | _ => none

/-- The events at the positions that meet a condition, in order. -/
def select (es : List TraceEvent) (p : ℕ → Bool) : List TraceEvent :=
  (es.zipIdx.filter fun entry => p entry.2).map Prod.fst

/-- The event at position `j` belongs to the test that starts at position `i`: it comes behind that
start, it is no start itself, and only calls lie between. -/
def Belongs (es : List TraceEvent) (i j : ℕ) : Prop :=
  i < j ∧ es[i]?.any isStart ∧ es[j]?.any (!isStart ·) ∧ ∀ k < j, i < k → es[k]?.all (IsCall ·)

instance (es : List TraceEvent) (i j : ℕ) : Decidable (Belongs es i j) :=
  inferInstanceAs (Decidable (_ ∧ _ ∧ _ ∧ _))

/-- The event at a position is no start and belongs to no test. -/
def Stray (es : List TraceEvent) (j : ℕ) : Prop :=
  es[j]?.any (!isStart ·) ∧ ∀ i < j, ¬Belongs es i j

instance (es : List TraceEvent) (j : ℕ) : Decidable (Stray es j) :=
  inferInstanceAs (Decidable (_ ∧ _))

/-- The event at a position belongs to a test that is open in front of the list. -/
def Leads (es : List TraceEvent) (j : ℕ) : Prop :=
  es[j]?.any (!isStart ·) ∧ ∀ k < j, es[k]?.all (IsCall ·)

instance (es : List TraceEvent) (j : ℕ) : Decidable (Leads es j) :=
  inferInstanceAs (Decidable (_ ∧ _))

variable {e : TraceEvent} {es rest : List TraceEvent} {name : String} {i j : ℕ}

/-- With one more event in front, every position is one more. -/
theorem zipIdx_one (es : List TraceEvent) :
    es.zipIdx 1 = es.zipIdx.map fun entry => (entry.1, entry.2 + 1) :=
  (List.map_snd_add_zipIdx_eq_zipIdx (n := 1) (k := 0)).symm

theorem starts_of_isStart_eq_false (he : isStart e = false) :
    starts (e :: es) = (starts es).map fun entry => (entry.1 + 1, entry.2) := by
  rw [starts, List.zipIdx_cons, Nat.zero_add, zipIdx_one,
    List.filterMap_cons_none (by grind [isStart]), List.filterMap_map, starts, List.map_filterMap]
  refine List.filterMap_congr fun entry _ => ?_
  obtain ⟨e, i⟩ := entry
  cases e <;> rfl

theorem starts_startTest (name : String) (es : List TraceEvent) :
    starts (.startTest name :: es) =
      (0, name) :: (starts es).map fun entry => (entry.1 + 1, entry.2) := by
  rw [← starts_of_isStart_eq_false (e := .endTest) rfl]
  rfl

theorem select_cons (e : TraceEvent) (es : List TraceEvent) (p : ℕ → Bool) :
    select (e :: es) p = (if p 0 then [e] else []) ++ select es fun j => p (j + 1) := by
  rw [select, List.zipIdx_cons, Nat.zero_add, zipIdx_one, List.filter_cons, List.filter_map]
  split_ifs <;> simp [select, Function.comp_def]

@[simp] theorem select_false (es : List TraceEvent) : select es (fun _ => false) = [] := by
  simp [select]

/-! #### One event in front -/

theorem not_belongs_zero : ¬Belongs es i 0 :=
  fun h => absurd h.1 (Nat.not_lt_zero i)

theorem belongs_succ_succ : Belongs (e :: es) (i + 1) (j + 1) ↔ Belongs es i j := by
  simp only [Belongs, Nat.add_lt_add_iff_right, List.getElem?_cons_succ]
  refine and_congr_right fun _ => and_congr_right fun _ => and_congr_right fun _ => ?_
  refine ⟨fun h k hkj hik => ?_, fun h k hkj hik => ?_⟩
  · simpa using h (k + 1) (by omega) (by omega)
  · cases k with
    | zero => omega
    | succ k => simpa using h k (by omega) (by omega)

theorem belongs_zero_succ : Belongs (e :: es) 0 (j + 1) ↔ isStart e ∧ Leads es j := by
  simp only [Belongs, Leads, Nat.zero_lt_succ, true_and, List.getElem?_cons_zero,
    List.getElem?_cons_succ, Option.any_some]
  refine and_congr_right fun _ => and_congr_right fun _ => ?_
  refine ⟨fun h k hkj => ?_, fun h k hkj hk => ?_⟩
  · simpa using h (k + 1) (by omega) (by omega)
  · cases k with
    | zero => omega
    | succ k => simpa using h k (by omega)

theorem leads_zero : Leads (e :: es) 0 ↔ ¬isStart e := by
  simp [Leads]

theorem leads_succ : Leads (e :: es) (j + 1) ↔ IsCall e ∧ Leads es j := by
  simp only [Leads, List.getElem?_cons_succ, and_left_comm (a := IsCall e)]
  refine and_congr_right fun _ => ⟨fun h => ⟨?_, fun k hkj => ?_⟩, fun h k hkj => ?_⟩
  · simpa using h 0 (Nat.zero_lt_succ j)
  · simpa using h (k + 1) (Nat.succ_lt_succ hkj)
  · cases k with
    | zero => simpa using h.1
    | succ k => simpa using h.2 k (Nat.lt_of_succ_lt_succ hkj)

theorem stray_zero : Stray (e :: es) 0 ↔ ¬isStart e := by
  simp [Stray]

theorem stray_succ : Stray (e :: es) (j + 1) ↔ Stray es j ∧ ¬(isStart e ∧ Leads es j) := by
  simp only [Stray, List.getElem?_cons_succ, and_assoc]
  refine and_congr_right fun _ => ⟨fun h => ⟨fun i hij => ?_, ?_⟩, fun h i hij => ?_⟩
  · rw [← belongs_succ_succ (e := e)]
    exact h (i + 1) (Nat.succ_lt_succ hij)
  · rw [← belongs_zero_succ]
    exact h 0 (Nat.zero_lt_succ j)
  · cases i with
    | zero => exact belongs_zero_succ.not.2 h.2
    | succ i => exact belongs_succ_succ.not.2 (h.1 i (Nat.lt_of_succ_lt_succ hij))

/-! #### The events at some positions, with one event in front -/

section Select

variable (es)

theorem select_stray_startTest (name : String) :
    (select (.startTest name :: es) fun j => Stray (.startTest name :: es) j) =
      select es fun j => Stray es j ∧ ¬Leads es j := by
  rw [select_cons]
  simp [stray_zero, stray_succ, isStart]

theorem select_stray_cons (he : isStart e = false) :
    (select (e :: es) fun j => Stray (e :: es) j) = e :: select es fun j => Stray es j := by
  rw [select_cons]
  simp [stray_zero, stray_succ, he]

theorem select_leads_startTest (name : String) :
    (select (.startTest name :: es) fun j => Leads (.startTest name :: es) j) = [] := by
  rw [select_cons]
  simp [leads_zero, leads_succ, isStart, IsCall]

theorem select_leads_endTest :
    (select (.endTest :: es) fun j => Leads (.endTest :: es) j) = [.endTest] := by
  rw [select_cons]
  simp [leads_zero, leads_succ, isStart, IsCall]

theorem select_leads_cons (he : e.IsCall) :
    (select (e :: es) fun j => Leads (e :: es) j) = e :: select es fun j => Leads es j := by
  rw [select_cons]
  simp [leads_zero, leads_succ, he, he.isStart_eq_false]

theorem select_unled_startTest (name : String) :
    (select (.startTest name :: es) fun j =>
      Stray (.startTest name :: es) j ∧ ¬Leads (.startTest name :: es) j) =
      select es fun j => Stray es j ∧ ¬Leads es j := by
  rw [select_cons]
  simp [stray_zero, stray_succ, leads_zero, leads_succ, isStart, IsCall]

theorem select_unled_endTest :
    (select (.endTest :: es) fun j => Stray (.endTest :: es) j ∧ ¬Leads (.endTest :: es) j) =
      select es fun j => Stray es j := by
  rw [select_cons]
  simp [stray_zero, stray_succ, leads_zero, leads_succ, isStart, IsCall]

theorem select_unled_cons (he : e.IsCall) :
    (select (e :: es) fun j => Stray (e :: es) j ∧ ¬Leads (e :: es) j) =
      select es fun j => Stray es j ∧ ¬Leads es j := by
  rw [select_cons]
  simp [stray_zero, stray_succ, leads_zero, leads_succ, he, he.isStart_eq_false]

end Select

/-- An event belongs to one test at most. -/
theorem Belongs.unique {i' : ℕ} (h : Belongs es i j) (h' : Belongs es i' j) : i = i' := by
  by_contra hne
  wlog hlt : i < i' generalizing i i'
  · exact this h' h (Ne.symm hne) (by omega)
  -- The later start lies between the earlier one and the event, where only calls lie.
  have hcall := h.2.2.2 i' h'.1 hlt
  have hstart := h'.2.1
  cases hget : es[i']? with
  | none => simp [hget] at hstart
  | some e =>
    rw [hget, Option.all_some, decide_eq_true_iff] at hcall
    rw [hget, Option.any_some, hcall.isStart_eq_false] at hstart
    exact Bool.false_ne_true hstart

/-! ### The pass over a log -/

theorem splitOutside_of_isStart_eq_false (he : isStart e = false) :
    splitOutside (e :: es) = (splitOutside es).withDropped e := by
  cases e with
  | startTest => exact absurd he (by simp [isStart])
  | _ => simp [splitOutside]

theorem splitInside_cons (he : e.IsCall) (seen : List TraceEvent) :
    splitInside name seen (e :: es) = splitInside name (e :: seen) es := by
  cases e with
  | startTest | endTest => exact he.elim
  | plainCall | resultCall => simp [splitInside]

/-- The tests of a list of events, from their starts on. -/
def testsOf (es : List TraceEvent) : List TestRun :=
  (starts es).map fun (i, name) => ⟨name, select es fun j => Belongs es i j⟩

theorem testsOf_of_isStart_eq_false (he : isStart e = false) :
    testsOf (e :: es) = testsOf es := by
  rw [testsOf, starts_of_isStart_eq_false he, List.map_map, testsOf]
  refine List.map_congr_left fun entry _ => ?_
  simp [select_cons, not_belongs_zero, belongs_succ_succ]

theorem testsOf_startTest (name : String) (es : List TraceEvent) :
    testsOf (.startTest name :: es) = ⟨name, select es fun j => Leads es j⟩ :: testsOf es := by
  rw [testsOf, starts_startTest, List.map_cons, List.map_map, testsOf]
  refine congrArg₂ _ ?_ (List.map_congr_left fun entry _ => ?_)
  · simp [select_cons, not_belongs_zero, belongs_zero_succ, isStart]
  · simp [select_cons, not_belongs_zero, belongs_succ_succ]

/-- From any point on, the pass yields the tests that start later and drops what belongs to none. If
a test is open at that point, it is completed first. -/
theorem split_pass (es : List TraceEvent) :
    splitOutside es = ⟨testsOf es, select es fun j => Stray es j⟩ ∧
    ∀ name seen, splitInside name seen es =
      ⟨⟨name, seen.reverse ++ select es fun j => Leads es j⟩ :: testsOf es,
        select es fun j => Stray es j ∧ ¬Leads es j⟩ := by
  induction es with
  | nil => exact ⟨rfl, fun name seen => by simp [splitInside, select, testsOf, starts]⟩
  | cons e es ih =>
    obtain ⟨houtside, hinside⟩ := ih
    rcases e.start_end_or_call with ⟨next, rfl⟩ | rfl | hcall
    · refine ⟨?_, fun name seen => ?_⟩
      · rw [splitOutside, hinside, testsOf_startTest, select_stray_startTest]
        rfl
      · rw [splitInside, Split.withTest, hinside, testsOf_startTest, select_leads_startTest,
          select_unled_startTest, List.append_nil]
        rfl
    · refine ⟨?_, fun name seen => ?_⟩
      · rw [splitOutside_of_isStart_eq_false rfl, Split.withDropped, houtside,
          testsOf_of_isStart_eq_false rfl, select_stray_cons es rfl]
      · rw [splitInside, Split.withTest, houtside, testsOf_of_isStart_eq_false rfl,
          select_leads_endTest, select_unled_endTest, List.reverse_cons]
    · have hstart := hcall.isStart_eq_false
      refine ⟨?_, fun name seen => ?_⟩
      · rw [splitOutside_of_isStart_eq_false hstart, Split.withDropped, houtside,
          testsOf_of_isStart_eq_false hstart, select_stray_cons es hstart]
      · rw [splitInside_cons hcall, hinside, testsOf_of_isStart_eq_false hstart,
          select_leads_cons es hcall, select_unled_cons es hcall, List.reverse_cons,
          List.append_assoc, List.singleton_append]

theorem tests_split (log : EventLog) : log.tests = testsOf log.events := by
  rw [tests, split, (split_pass log.events).1]

theorem dropped_split (log : EventLog) :
    log.split.dropped = select log.events fun j => Stray log.events j := by
  rw [split, (split_pass log.events).1]

/-! ### The tests that come out -/

/-- The events of an open test are calls, possibly followed by the end. -/
theorem exists_calls_of_leads (es : List TraceEvent) : ∃ calls : List TraceEvent,
    (∀ e ∈ calls, e.IsCall) ∧ ((select es fun j => Leads es j) = calls ∨
      (select es fun j => Leads es j) = calls ++ [.endTest]) := by
  induction es with
  | nil => exact ⟨[], by simp, .inl rfl⟩
  | cons e es ih =>
    rcases e.start_end_or_call with ⟨name, rfl⟩ | rfl | hcall
    · exact ⟨[], by simp, .inl (select_leads_startTest es name)⟩
    · exact ⟨[], by simp, .inr (select_leads_endTest es)⟩
    · obtain ⟨calls, hcalls, hleads⟩ := ih
      refine ⟨e :: calls, List.forall_mem_cons.2 ⟨hcall, hcalls⟩, ?_⟩
      rw [select_leads_cons es hcall]
      exact hleads.imp (congrArg (e :: ·)) (congrArg (e :: ·))

theorem proper_of_mem_testsOf {t : TestRun} (ht : t ∈ testsOf es) : t.Proper := by
  induction es with
  | nil => simp [testsOf, starts] at ht
  | cons e es ih =>
    rcases Bool.eq_false_or_eq_true (isStart e) with hstart | hstart
    · obtain ⟨name, rfl⟩ : ∃ name, e = .startTest name := by cases e <;> simp_all [isStart]
      rw [testsOf_startTest] at ht
      rcases List.mem_cons.1 ht with rfl | ht
      · exact exists_calls_of_leads es
      · exact ih ht
    · rw [testsOf_of_isStart_eq_false hstart] at ht
      exact ih ht

/-- From any point on, every event is a start, belongs to a test that starts later, or is dropped,
if it does not belong to the test that is open. -/
theorem length_pass (es : List TraceEvent) :
    es.length = (select es fun j => Stray es j).length +
      ((testsOf es).map fun t => 1 + t.events.length).sum ∧
    es.length = (select es fun j => Stray es j ∧ ¬Leads es j).length +
      (select es fun j => Leads es j).length +
      ((testsOf es).map fun t => 1 + t.events.length).sum := by
  induction es with
  | nil => exact ⟨rfl, rfl⟩
  | cons e es ih =>
    obtain ⟨houtside, hinside⟩ := ih
    rcases e.start_end_or_call with ⟨next, rfl⟩ | rfl | hcall
    · rw [testsOf_startTest, select_stray_startTest, select_unled_startTest,
        select_leads_startTest, List.length_cons, List.map_cons, List.sum_cons, List.length_nil]
      dsimp only
      omega
    · rw [testsOf_of_isStart_eq_false rfl, select_stray_cons es rfl, select_unled_endTest,
        select_leads_endTest, List.length_cons, List.length_cons, List.length_singleton]
      omega
    · have hstart := hcall.isStart_eq_false
      rw [testsOf_of_isStart_eq_false hstart, select_stray_cons es hstart,
        select_unled_cons es hcall, select_leads_cons es hcall, List.length_cons,
        List.length_cons, List.length_cons]
      omega

/-! ### Tests that follow one another -/

/-- The log in which some tests follow one another. -/
def ofTests (ts : List TestRun) : EventLog :=
  ⟨ts.flatMap fun t => .startTest t.name :: t.events⟩

/-- Calls are taken up by the test that is open. -/
theorem splitInside_append {calls : List TraceEvent} (hcalls : ∀ e ∈ calls, e.IsCall)
    (seen : List TraceEvent) : splitInside name seen (calls ++ es) =
      splitInside name (calls.reverse ++ seen) es := by
  induction calls generalizing seen with
  | nil => rfl
  | cons e calls ih =>
    obtain ⟨he, hrest⟩ := List.forall_mem_cons.1 hcalls
    rw [List.cons_append, splitInside_cons he, ih hrest, List.reverse_cons, List.append_assoc,
      List.singleton_append]

/-- In front of another test, and at the end of the log, the test that is open is completed. -/
theorem splitInside_ofTests (seen : List TraceEvent) (ts : List TestRun) :
    splitInside name seen (ofTests ts).events =
      (ofTests ts).split.withTest ⟨name, seen.reverse⟩ := by
  cases ts with
  | nil => rfl
  | cons t ts =>
    rw [ofTests, List.flatMap_cons, List.cons_append, splitInside]
    rfl

/-- Tests that follow one another are told apart. -/
theorem split_ofTests {ts : List TestRun} (hts : ∀ t ∈ ts, t.Proper) :
    (ofTests ts).split = ⟨ts, []⟩ := by
  induction ts with
  | nil => rfl
  | cons t ts ih =>
    obtain ⟨⟨calls, hcalls, hevents⟩, hrest⟩ := List.forall_mem_cons.1 hts
    have hsplit : (ofTests (t :: ts)).split =
        splitInside t.name [] (t.events ++ (ofTests ts).events) := rfl
    have hlater : (ofTests ts).split.withTest t = ⟨t :: ts, []⟩ := by rw [ih hrest]; rfl
    obtain ⟨name, events⟩ := t
    rw [hsplit]
    rcases hevents with rfl | rfl
    · rw [splitInside_append hcalls, splitInside_ofTests, List.append_nil, List.reverse_reverse,
        hlater]
    · rw [List.append_assoc, splitInside_append hcalls, List.singleton_append, splitInside,
        List.append_nil, List.reverse_cons, List.reverse_reverse]
      exact hlater

/-! ### The log divided -/

/-- What taking a log apart yields. -/
structure Divided (log : EventLog) : Prop where
  /-- There is a test for every start, in order and of its name. It holds the events that belong to
  the start. -/
  tests : log.tests = (starts log.events).map fun entry =>
    ⟨entry.2, select log.events fun j => Belongs log.events entry.1 j⟩
  /-- No event belongs to two tests. -/
  unique : ∀ {i i' j : ℕ}, Belongs log.events i j → Belongs log.events i' j → i = i'
  /-- The events that are no starts and belong to no test, and no others, are dropped, each with a
  warning. -/
  warnings : log.splitLogs = (select log.events fun j => Stray log.events j).map fun e =>
    .warn ("trace event outside of a test dropped: " ++ e.display)
  /-- A test holds no start, and an end only as its last event. -/
  inner : ∀ t ∈ log.tests, (∀ e ∈ t.events, ¬isStart e) ∧ .endTest ∉ t.events.dropLast
  /-- A test has reached its end exactly if an end occurs in it. -/
  complete : ∀ t ∈ log.tests, t.isComplete ↔ .endTest ∈ t.events
  /-- Every event is a start, an event of a test, or dropped. -/
  length : log.events.length =
    log.splitLogs.length + (log.tests.map fun t => 1 + t.events.length).sum
  /-- The tests, when they follow one another, are told apart again, and nothing is dropped. -/
  again : (ofTests log.tests).tests = log.tests ∧ (ofTests log.tests).splitLogs = []

/-- Every event of a log has its place: it starts a test, belongs to exactly one test, or is dropped
with a warning. -/
theorem divided (log : EventLog) : log.Divided where
  tests := log.tests_split
  unique := Belongs.unique
  warnings := by rw [splitLogs, dropped_split]
  inner t ht := by
    rw [tests_split] at ht
    exact (proper_of_mem_testsOf ht).inner
  complete t ht := by
    rw [tests_split] at ht
    exact (proper_of_mem_testsOf ht).isComplete_iff
  length := by
    rw [splitLogs, List.length_map, dropped_split, tests_split]
    exact (length_pass log.events).1
  again := by
    have hproper : ∀ t ∈ log.tests, t.Proper := by
      intro t ht
      rw [tests_split] at ht
      exact proper_of_mem_testsOf ht
    have hsplit := split_ofTests hproper
    rw [EventLog.tests, splitLogs, hsplit]
    exact ⟨rfl, rfl⟩

/-- An end and a call outside of the only test are dropped. -/
example : (⟨[.endTest, .startTest "A", .endTest, .plainCall "x" "y"]⟩ : EventLog).split =
    ⟨[⟨"A", [.endTest]⟩], [.endTest, .plainCall "x" "y"]⟩ := by
  decide

end EventLog

end BuildDrift
