import BuildDrift.Proofs.Comparison.Pairing
import BuildDrift.Proofs.Comparison.SingleTest
import Mathlib.Data.List.Forall2
import Mathlib.Data.List.ReduceOption
import Mathlib.Order.Bounds.Basic

/-!
# Every test is accounted for

Comparing two logs gives one fate to every test of the older run: it matches its partner, it differs
from it, or it has none. Those that match are counted, and the others are listed in order; behind
them the tests of the newer run are listed that are nobody's partner. A test that differs is listed
with the first event in which it does, which is the one behind the longest common front. The tests
of a log are those that start in it, each with the events that belong to its start, as
`EventLog.divided` says.

## Main definitions

* `TestRun.CommonFront`: the length of the longest common front of two lists of events.
* `TestRun.Fares`: the fate of a test, given its partner.
* `RunComparison.Accounts`: what a comparison says about every test.

## Main results

* `TestRun.firstDifference_eq_some_iff`: the first difference is behind the common front.
* `EventLog.compare_accounts`: every test is accounted for.
-/

namespace BuildDrift

namespace TestRun

/-! ### Where events differ -/

/-- A number is the length of the longest common front of two lists of events. -/
def CommonFront (l l' : List TraceEvent) (i : ℕ) : Prop :=
  IsGreatest {n | ∃ front, front <+: l ∧ front <+: l' ∧ front.length = n} i

variable {l l' : List TraceEvent} {i : ℕ}

theorem CommonFront.le_length (h : CommonFront l l' i) : i ≤ l.length ∧ i ≤ l'.length := by
  obtain ⟨front, hl, hl', rfl⟩ := h.1
  exact ⟨hl.length_le, hl'.length_le⟩

/-- A list of events has no event behind the common front exactly when it has ended there. -/
theorem CommonFront.getElem?_eq_none_iff (h : CommonFront l l' i) :
    (l[i]? = none ↔ l.length = i) ∧ (l'[i]? = none ↔ l'.length = i) := by
  obtain ⟨hle, hle'⟩ := h.le_length
  rw [List.getElem?_eq_none_iff, List.getElem?_eq_none_iff]
  omega

/-- A common front behind which the lists differ is no longer than the first of them. -/
theorem le_length_of_take_eq (hfront : l.take i = l'.take i) (hi : l[i]? ≠ l'[i]?) :
    i ≤ l.length := by
  by_contra hlt
  have hlength := congrArg List.length hfront
  simp only [List.length_take] at hlength
  refine hi ((List.getElem?_eq_none ?_).trans (List.getElem?_eq_none ?_).symm) <;> omega

/-- If the next events differ behind a common front, no longer front is common. -/
theorem commonFront_of_ne (hfront : l.take i = l'.take i) (hi : l[i]? ≠ l'[i]?) :
    CommonFront l l' i := by
  have hle : i ≤ l.length := le_length_of_take_eq hfront hi
  refine ⟨⟨l.take i, List.take_prefix i l, hfront ▸ List.take_prefix i l', ?_⟩, ?_⟩
  · rw [List.length_take, Nat.min_eq_left hle]
  · rintro n ⟨front, hl, hl', rfl⟩
    by_contra hlt
    rw [Nat.not_le] at hlt
    refine hi ?_
    rw [List.getElem?_eq_getElem (hlt.trans_le hl.length_le),
      List.getElem?_eq_getElem (hlt.trans_le hl'.length_le), ← hl.getElem hlt, ← hl'.getElem hlt]

/-- The first difference is where the events differ and nothing in front of them does. -/
theorem firstDifference_eq_some_iff : firstDifference l l' = some i ↔
    l.take i = l'.take i ∧ l[i]? ≠ l'[i]? := by
  refine ⟨fun h => ?_, fun h => firstDifference_eq_some h.1 h.2⟩
  induction l generalizing l' i with
  | nil =>
    cases l' with
    | nil => simp [firstDifference] at h
    | cons e' l' =>
      obtain rfl : 0 = i := by simpa [firstDifference] using h
      simp
  | cons e l ih =>
    cases l' with
    | nil =>
      obtain rfl : 0 = i := by simpa [firstDifference] using h
      simp
    | cons e' l' =>
      rw [firstDifference] at h
      split_ifs at h with he
      · obtain ⟨j, hj, rfl⟩ := Option.map_eq_some_iff.1 h
        obtain ⟨hfront, hne⟩ := ih hj
        subst he
        exact ⟨by simp [hfront], by simpa using hne⟩
      · obtain rfl : 0 = i := by simpa using h
        simpa using he

/-! ### The fate of a test -/

/-- How a test of the older run fares, given its partner in the newer run: it matches, or it drifts
in some way. -/
inductive Fares (t : TestRun) : Option TestRun → Option Drift → Prop
  /-- The partner has the same events. -/
  | matching {u : TestRun} (h : t.events = u.events) : Fares t (some u) none
  /-- The partner has other events, from the end of the longest common front on. -/
  | differing {u : TestRun} {i : ℕ} (h : t.events ≠ u.events)
      (hi : CommonFront t.events u.events i) (hnext : t.events[i]? ≠ u.events[i]?) :
      Fares t (some u) (some (.event t.name i t.events[i]? u.events[i]?))
  /-- There is no partner. -/
  | missing : Fares t none (some (.missing t.name))

theorem fares_pairDrift? (t : TestRun) (partner : Option TestRun) :
    t.Fares partner (RunComparison.pairDrift? (t, partner)) := by
  cases partner with
  | none => exact .missing
  | some u =>
    rw [RunComparison.pairDrift?, drift?]
    cases h : firstDifference t.events u.events with
    | none => exact .matching (firstDifference_eq_none_iff.1 h)
    | some i =>
      obtain ⟨hfront, hnext⟩ := firstDifference_eq_some_iff.1 h
      refine .differing (fun heq => hnext (heq ▸ rfl)) (commonFront_of_ne hfront hnext) hnext

end TestRun

/-! ### Kinds of drift -/

namespace Drift

/-- The test was run against both builds. -/
def isEvent : Drift → Bool
  | event .. => true
  | _ => false

/-- The test was run against the older build only. -/
def isMissing : Drift → Bool
  | missing _ => true
  | _ => false

/-- The test was run against the newer build only. -/
def isAdded : Drift → Bool
  | added _ => true
  | _ => false

end Drift

namespace RunComparison

open TestRun

/-! ### Counting fates -/

section Counting

variable (pairs : List (TestRun × Option TestRun))

/-- A test matches, differs or is missing. -/
theorem countP_pairs : pairs.countP (fun pair => (pairDrift? pair).isNone) +
    (pairs.filterMap pairDrift?).countP Drift.isEvent +
    (pairs.filterMap pairDrift?).countP Drift.isMissing = pairs.length := by
  induction pairs with
  | nil => rfl
  | cons pair pairs ih =>
    obtain ⟨t, partner⟩ := pair
    have hfate := fares_pairDrift? t partner
    rw [List.countP_cons, List.filterMap_cons, List.length_cons]
    generalize pairDrift? (t, partner) = fate at hfate
    cases hfate <;> simp [Drift.isEvent, Drift.isMissing, List.countP_cons] <;> omega

/-- A test with a partner matches or differs. -/
theorem countP_partners : pairs.countP (fun pair => (pairDrift? pair).isNone) +
    (pairs.filterMap pairDrift?).countP Drift.isEvent =
      pairs.countP fun pair => pair.2.isSome := by
  induction pairs with
  | nil => rfl
  | cons pair pairs ih =>
    obtain ⟨t, partner⟩ := pair
    have hfate := fares_pairDrift? t partner
    rw [List.countP_cons, List.filterMap_cons, List.countP_cons]
    generalize pairDrift? (t, partner) = fate at hfate
    cases hfate <;> simp [Drift.isEvent, List.countP_cons] <;> omega

/-- No test of the older run is added. -/
theorem countP_isAdded : (pairs.filterMap pairDrift?).countP Drift.isAdded = 0 := by
  rw [List.countP_eq_zero]
  intro drift hdrift
  obtain ⟨⟨t, partner⟩, -, hpair⟩ := List.mem_filterMap.1 hdrift
  have hfate := fares_pairDrift? t partner
  rw [hpair] at hfate
  cases hfate <;> simp [Drift.isAdded]

/-- A test that is nobody's partner is added. -/
theorem countP_rest (rest : List TestRun) :
    (rest.map fun t => Drift.added t.name).countP Drift.isEvent = 0 ∧
    (rest.map fun t => Drift.added t.name).countP Drift.isMissing = 0 ∧
    (rest.map fun t => Drift.added t.name).countP Drift.isAdded = rest.length := by
  simp [List.countP_map, Function.comp_def, Drift.isEvent, Drift.isMissing, Drift.isAdded]

end Counting

/-! ### The account -/

/-- What a comparison says about the tests of two runs. -/
structure Accounts (olds news : List TestRun) (c : RunComparison) : Prop where
  /-- Every older test has a fate. Those that match are counted; those that do not are listed in
  order, and behind them the newer tests that are nobody's partner. -/
  fates : ∃ fates : List (Option Drift),
    List.Forall₂ (fun entry fate => entry.1.Fares (partner? news entry) fate) (numbered olds)
      fates ∧
    c.matching = fates.count none ∧
    c.drifts = fates.reduceOption ++
      ((numbered news).filter fun entry => (partner? olds entry).isNone).map
        fun entry => .added entry.1.name
  /-- An event that is listed is the first that differs between two tests of the same name and
  number; a run that has ended there, and only such a run, has none. -/
  event : ∀ {name : String} {i : ℕ} {e e' : Option TraceEvent}, .event name i e e' ∈ c.drifts →
    e ≠ e' ∧ ∃ (k : ℕ) (t u : TestRun),
      (named name olds)[k]? = some t ∧ (named name news)[k]? = some u ∧
      CommonFront t.events u.events i ∧ e = t.events[i]? ∧ e' = u.events[i]? ∧
      (e = none ↔ t.events.length = i) ∧ (e' = none ↔ u.events.length = i)
  /-- Every older test matches, differs or is missing. -/
  older : c.matching + c.drifts.countP Drift.isEvent + c.drifts.countP Drift.isMissing =
    olds.length
  /-- Every newer test matches, differs or is added. -/
  newer : c.matching + c.drifts.countP Drift.isEvent + c.drifts.countP Drift.isAdded =
    news.length

variable (olds news : List TestRun)

/-- A numbered test of a run has its number among the tests of its name. -/
theorem named_of_mem_numbered {ts : List TestRun} {entry : TestRun × ℕ}
    (h : entry ∈ numbered ts) : (named entry.1.name ts)[entry.2]? = some entry.1 := by
  rw [← List.mem_zipIdx_iff_getElem?, ← filter_numbered]
  exact List.mem_filter.2 ⟨h, by simp⟩

/-- An event is listed for two tests of the same name and number. -/
theorem exists_of_event_mem {name : String} {i : ℕ} {e e' : Option TraceEvent}
    (h : .event name i e e' ∈ (ofPairing (pair olds news)).drifts) :
    ∃ (k : ℕ) (t u : TestRun), (named name olds)[k]? = some t ∧ (named name news)[k]? = some u ∧
      t.Fares (some u) (some (.event name i e e')) := by
  rcases List.mem_append.1 h with hpair | hadded
  · rw [pairs_pair, List.filterMap_map] at hpair
    obtain ⟨entry, hentry, hdrift⟩ := List.mem_filterMap.1 hpair
    have hfate := fares_pairDrift? entry.1 (partner? news entry)
    rw [Function.comp_apply] at hdrift
    rw [hdrift] at hfate
    generalize hpartner : partner? news entry = partner at hfate
    have hfate' := hfate
    cases hfate with
    | differing => exact ⟨entry.2, entry.1, _, named_of_mem_numbered hentry, hpartner, hfate'⟩
  · obtain ⟨u, -, hu⟩ := List.mem_map.1 hadded
    exact absurd hu (by simp)

theorem accounts_ofPairing : Accounts olds news (ofPairing (pair olds news)) where
  fates := by
    refine ⟨(numbered olds).map fun entry => pairDrift? (entry.1, partner? news entry), ?_, ?_, ?_⟩
    · rw [List.forall₂_map_right_iff, List.forall₂_same]
      exact fun entry _ => fares_pairDrift? entry.1 (partner? news entry)
    · rw [ofPairing, pairs_pair, List.countP_map, List.count, List.countP_map]
      refine List.countP_congr fun entry _ => ?_
      simp
    · rw [ofPairing, pairs_pair, rest_pair, List.filterMap_map, List.map_map]
      rw [List.reduceOption, List.filterMap_map]
      rfl
  event := by
    intro name i e e' h
    obtain ⟨k, t, u, ht, hu, hfate⟩ := exists_of_event_mem olds news h
    cases hfate with
    | differing _ hi hnext =>
      exact ⟨hnext, k, t, u, ht, hu, hi, rfl, rfl, hi.getElem?_eq_none_iff⟩
  older := by
    obtain ⟨hevent, hmissing, -⟩ := countP_rest (pair olds news).rest
    have hpairs := countP_pairs (pair olds news).pairs
    have hlength : (pair olds news).pairs.length = olds.length := by
      rw [pairs_pair, List.length_map, ← List.length_map Prod.fst, map_fst_numbered]
    simp only [ofPairing, List.countP_append, hevent, hmissing]
    omega
  newer := by
    obtain ⟨hevent, -, hadded⟩ := countP_rest (pair olds news).rest
    have hpartners := countP_partners (pair olds news).pairs
    have hnone := countP_isAdded (pair olds news).pairs
    have hlength := length_pair olds news
    simp only [ofPairing, List.countP_append, hevent, hadded]
    omega

end RunComparison

namespace EventLog

/-- Every test of two logs is accounted for: a test is compared with the one that has its name and
its number among the tests of that name, and a test without such a partner is missing or added. The
tests of either log are those that its starts open. -/
theorem compare_accounts (old new : EventLog) :
    RunComparison.Accounts old.tests new.tests (compare old new) ∧
      old.tests = testsOf old.events ∧ new.tests = testsOf new.events :=
  ⟨RunComparison.accounts_ofPairing old.tests new.tests, old.tests_split, new.tests_split⟩

/-- The first tests called `A` differ where the newer one has ended, the second ones match, and `B`
and `C` have no partner. -/
theorem compare_accounts_sample :
    let old : EventLog :=
      ⟨[.startTest "A", .plainCall "a" "f", .startTest "B", .startTest "A", .endTest]⟩
    let new : EventLog := ⟨[.endTest, .startTest "C", .startTest "A", .startTest "A", .endTest]⟩
    old.tests = [⟨"A", [.plainCall "a" "f"]⟩, ⟨"B", []⟩, ⟨"A", [.endTest]⟩] ∧
    new.tests = [⟨"C", []⟩, ⟨"A", []⟩, ⟨"A", [.endTest]⟩] ∧
    RunComparison.Accounts old.tests new.tests
      ⟨1, [.event "A" 0 (some (.plainCall "a" "f")) none, .missing "B", .added "C"]⟩ := by
  intro old new
  obtain ⟨haccounts, hold, hnew⟩ := compare_accounts old new
  have hcompare : compare old new =
      ⟨1, [.event "A" 0 (some (.plainCall "a" "f")) none, .missing "B", .added "C"]⟩ := by decide
  rw [hcompare] at haccounts
  exact ⟨hold.trans (by decide), hnew.trans (by decide), haccounts⟩

end EventLog

end BuildDrift
