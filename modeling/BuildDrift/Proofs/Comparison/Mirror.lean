import BuildDrift.Proofs.Comparison.Accounting
import Mathlib.Data.List.Basic

/-!
# Comparing traces both ways

The partners of the tests of a name depend on the tests of that name alone. So two logs are compared
name by name: the first test of a name with the first, the second with the second, until both logs
have no further one. Seen like this the comparison treats both logs alike, and does not see how
tests of different names are scheduled.

## Main definitions

* `Drift.mirror`: a drift with the runs exchanged.
* `RunComparison.confronted`: the tests of two runs side by side, one of them possibly absent.
* `TestRun.Rescheduled`: the same tests, those of one name in the same order.

## Main results

* `RunComparison.filter_confronted`: name by name, tests stand side by side in order.
* `EventLog.hasDrift_compare_eq_false_iff`: there is no drift when only the schedule differs.
* `EventLog.compare_mirror`: exchanging the logs, and rescheduling their tests.
-/

namespace BuildDrift

/-- The drift with the older and the newer run exchanged. -/
def Drift.mirror : Drift → Drift
  | event test position old new => event test position new old
  | missing test => added test
  | added test => missing test

/-! ### Lists that agree key by key -/

/-- Lists are permutations of each other if, for every key, the elements that have the key are the
same in both. -/
theorem perm_of_filter_eq {α κ : Type*} [DecidableEq α] (has : κ → α → Bool) {l l' : List α}
    (hl : ∀ a ∈ l, ∃ key, has key a) (hl' : ∀ a ∈ l', ∃ key, has key a)
    (h : ∀ key, l.filter (has key) = l'.filter (has key)) : l.Perm l' := by
  refine List.perm_iff_count.2 fun a => ?_
  by_cases ha : ∃ key, has key a
  · obtain ⟨key, hkey⟩ := ha
    rw [← List.count_filter hkey, ← List.count_filter (l := l') hkey, h]
  · rw [List.count_eq_zero.2 fun hmem => ha (hl a hmem),
      List.count_eq_zero.2 fun hmem => ha (hl' a hmem)]

namespace TestRun

/-- One run is the other one rescheduled: the tests of every name are the same, in the same
order. -/
def Rescheduled (ts ts' : List TestRun) : Prop :=
  ∀ name, named name ts = named name ts'

variable {ts ts' : List TestRun}

/-- A rescheduled run is a permutation. -/
theorem Rescheduled.perm (h : Rescheduled ts ts') : ts.Perm ts' :=
  perm_of_filter_eq (fun name (t : TestRun) => decide (t.name = name))
    (fun t _ => ⟨t.name, by simp⟩) (fun t _ => ⟨t.name, by simp⟩) h

theorem rescheduled_equivalence : Equivalence Rescheduled where
  refl _ _ := rfl
  symm h name := (h name).symm
  trans h h' name := (h name).trans (h' name)

end TestRun

namespace RunComparison

open TestRun

/-- A test of an older run beside one of a newer run; one of them may be absent. -/
abbrev Confrontation := Option TestRun × Option TestRun

namespace Confrontation

/-- The tests that are there have this name. -/
def hasName (name : String) (c : Confrontation) : Bool :=
  c.1.all (fun t => t.name = name) && c.2.all fun t => t.name = name

/-- How the tests differ, if they do. -/
def drift? : Confrontation → Option Drift
  | (some t, partner) => pairDrift? (t, partner)
  | (none, some u) => some (.added u.name)
  | (none, none) => none

end Confrontation

/-- The tests of two runs side by side. -/
def confronted (olds news : List TestRun) : List Confrontation :=
  (pair olds news).pairs.map (fun (t, partner) => (some t, partner)) ++
    (pair olds news).rest.map fun u => (none, some u)

variable {olds news : List TestRun}

theorem matching_ofPairing : (ofPairing (pair olds news)).matching =
    (confronted olds news).countP fun c => c.drift?.isNone := by
  simp [ofPairing, confronted, List.countP_append, List.countP_map, Function.comp_def,
    Confrontation.drift?]

theorem drifts_ofPairing : (ofPairing (pair olds news)).drifts =
    (confronted olds news).filterMap Confrontation.drift? := by
  rw [confronted, List.filterMap_append, List.filterMap_map, List.filterMap_map, ofPairing]
  rw [← List.filterMap_eq_map]
  rfl

/-- A test and its partner have a name in common. -/
theorem hasName_partner? (news : List TestRun) (entry : TestRun × ℕ) (name : String) :
    Confrontation.hasName name (some entry.1, partner? news entry) =
      decide (entry.1.name = name) := by
  rw [Confrontation.hasName, Option.all_some, Bool.and_eq_left_iff_imp]
  intro h
  cases hu : partner? news entry with
  | none => rfl
  | some u => simpa [name_of_mem_named (List.mem_of_getElem? hu)] using h

/-- The older tests of a name beside their partners. -/
theorem filter_pairs (olds news : List TestRun) (name : String) :
    ((pair olds news).pairs.map fun (t, partner) => ((some t, partner) : Confrontation)).filter
      (Confrontation.hasName name) =
        (List.range (named name olds).length).map fun k =>
          ((named name olds)[k]?, (named name news)[k]?) := by
  rw [pairs_pair, List.map_map, List.filter_map]
  have hfilter := filter_numbered name olds
  simp only [Function.comp_def, hasName_partner?, hfilter]
  refine List.ext_getElem (by simp) fun k hk _ => ?_
  have hlt : k < (named name olds).length := by simpa using hk
  have hname : ((named name olds)[k]).name = name := name_of_mem_named (List.getElem_mem hlt)
  simp [partner?, hname]

theorem filter_le_zipIdx {α : Type*} (l : List α) (i n : ℕ) :
    (l.zipIdx i).filter (fun entry => n ≤ entry.2) = (l.zipIdx i).drop (n - i) := by
  induction l generalizing i with
  | nil => simp
  | cons a l ih =>
    rw [List.zipIdx_cons]
    by_cases h : n ≤ i
    · rw [List.filter_cons_of_pos (by simpa using h), ih, Nat.sub_eq_zero_of_le h,
        Nat.sub_eq_zero_of_le (Nat.le_succ_of_le h), List.drop_zero, List.drop_zero]
    · rw [List.filter_cons_of_neg (by simpa using h), ih, ← Nat.sub_add_cancel
        (Nat.sub_pos_of_lt (Nat.not_le.1 h)), List.drop_succ_cons]
      rfl

/-- The newer tests of a name that are nobody's partner are those behind the last partner. -/
theorem filter_rest (olds news : List TestRun) (name : String) :
    ((pair olds news).rest.map fun u => ((none, some u) : Confrontation)).filter
      (Confrontation.hasName name) =
        ((named name news).drop (named name olds).length).map fun u => (none, some u) := by
  have hswap : ((numbered news).filter fun entry => (partner? olds entry).isNone).filter
      (fun entry => entry.1.name = name) =
        (named name news).zipIdx.filter fun entry => (named name olds).length ≤ entry.2 := by
    rw [List.filter_comm, filter_numbered]
    refine List.filter_congr fun entry hentry => ?_
    have hname : entry.1.name = name := name_of_mem_named (List.fst_mem_of_mem_zipIdx hentry)
    rw [partner?, hname, Bool.eq_iff_iff, decide_eq_true_iff, Option.isNone_iff_eq_none,
      List.getElem?_eq_none_iff]
  rw [rest_pair, List.map_map, List.filter_map]
  have hname (entry : TestRun × ℕ) :
      Confrontation.hasName name (none, some entry.1) = decide (entry.1.name = name) := rfl
  have hfst : ((named name news).zipIdx.drop (named name olds).length).map Prod.fst =
      (named name news).drop (named name olds).length := by
    rw [List.map_drop, List.zipIdx_map_fst]
  simp only [Function.comp_def, hname, hswap, filter_le_zipIdx, Nat.sub_zero]
  rw [← hfst, List.map_map]
  rfl

/-- The tests of a name stand side by side in order, as long as one of the runs has any. -/
theorem filter_confronted (olds news : List TestRun) (name : String) :
    (confronted olds news).filter (Confrontation.hasName name) =
      (List.range (max (named name olds).length (named name news).length)).map fun k =>
        ((named name olds)[k]?, (named name news)[k]?) := by
  have hmax : max (named name olds).length (named name news).length = (named name olds).length +
      ((named name news).length - (named name olds).length) := by omega
  rw [confronted, List.filter_append, filter_pairs, filter_rest, hmax, List.range_add,
    List.map_append]
  refine congrArg _ (List.ext_getElem (by simp) fun k hk _ => ?_)
  have hlt : (named name olds).length + k < (named name news).length := by
    simp at hk
    omega
  simp [List.getElem?_eq_getElem hlt]

theorem exists_hasName {c : Confrontation} (h : c ∈ confronted olds news) :
    ∃ name, c.hasName name := by
  rcases List.mem_append.1 h with hpair | hrest
  · rw [pairs_pair, List.map_map] at hpair
    obtain ⟨entry, -, rfl⟩ := List.mem_map.1 hpair
    exact ⟨entry.1.name, (hasName_partner? news entry _).trans (by simp)⟩
  · obtain ⟨u, -, rfl⟩ := List.mem_map.1 hrest
    exact ⟨u.name, by simp [Confrontation.hasName]⟩

theorem Confrontation.hasName_swap (name : String) (c : Confrontation) :
    hasName name c.swap = hasName name c :=
  Bool.and_comm _ _

/-- With the runs exchanged, the same tests stand side by side the other way round. -/
theorem confronted_swap (olds news : List TestRun) :
    (confronted news olds).Perm ((confronted olds news).map Prod.swap) := by
  refine perm_of_filter_eq Confrontation.hasName (fun _ h => exists_hasName h) (fun c h => ?_)
    fun name => ?_
  · obtain ⟨c, hc, rfl⟩ := List.mem_map.1 h
    obtain ⟨name, hname⟩ := exists_hasName hc
    exact ⟨name, (Confrontation.hasName_swap name c).trans hname⟩
  · rw [List.filter_map, Function.comp_def]
    simp only [Confrontation.hasName_swap, filter_confronted]
    rw [List.map_map, Nat.max_comm]
    rfl

/-- Rescheduling does not change which tests stand side by side. -/
theorem confronted_perm {olds' news' : List TestRun} (hold : Rescheduled olds olds')
    (hnew : Rescheduled news news') : (confronted olds' news').Perm (confronted olds news) := by
  refine perm_of_filter_eq Confrontation.hasName (fun _ h => exists_hasName h)
    (fun _ h => exists_hasName h) fun name => ?_
  rw [filter_confronted, filter_confronted, hold name, hnew name]

end RunComparison

/-! ### Drifts both ways -/

theorem TestRun.firstDifference_comm (l l' : List TraceEvent) :
    firstDifference l l' = firstDifference l' l := by
  ext i
  rw [firstDifference_eq_some_iff, firstDifference_eq_some_iff]
  exact and_congr eq_comm ne_comm

namespace RunComparison

open TestRun

variable {olds news : List TestRun} {c : Confrontation} {name : String}

theorem Confrontation.drift?_swap (hname : c.hasName name) :
    drift? c.swap = c.drift?.map Drift.mirror := by
  obtain ⟨_ | t, _ | u⟩ := c
  · rfl
  · rfl
  · rfl
  · have htu : t.name = u.name := by
      simp only [hasName, Option.all_some, Bool.and_eq_true, decide_eq_true_eq] at hname
      exact hname.1.trans hname.2.symm
    simp only [Prod.swap_prod_mk, drift?, pairDrift?, TestRun.drift?, Option.map_map]
    rw [firstDifference_comm, htu]
    rfl

/-- Tests that stand side by side do not differ when they are the same. -/
theorem Confrontation.drift?_eq_none_iff (hname : c.hasName name) :
    c.drift? = none ↔ c.1 = c.2 := by
  obtain ⟨_ | ⟨n, l⟩, _ | ⟨n', l'⟩⟩ := c
  · simp [drift?]
  · simp [drift?]
  · simp [drift?, pairDrift?]
  · simp only [hasName, Option.all_some, Bool.and_eq_true, decide_eq_true_eq] at hname
    simp [drift?, pairDrift?, TestRun.drift?, firstDifference_eq_none_iff, hname.1, hname.2]

/-- There is no drift between two runs when one of them is the other one rescheduled. -/
theorem drifts_eq_nil_iff :
    (ofPairing (pair olds news)).drifts = [] ↔ Rescheduled olds news := by
  rw [drifts_ofPairing, List.filterMap_eq_nil_iff]
  constructor
  · intro h name
    refine List.ext_getElem? fun k => ?_
    by_cases hk : k < max (named name olds).length (named name news).length
    · have hmem : ((named name olds)[k]?, (named name news)[k]?) ∈
          (confronted olds news).filter (Confrontation.hasName name) := by
        rw [filter_confronted]
        exact List.mem_map.2 ⟨k, List.mem_range.2 hk, rfl⟩
      obtain ⟨hmem, hname⟩ := List.mem_filter.1 hmem
      exact (Confrontation.drift?_eq_none_iff hname).1 (h _ hmem)
    -- Behind the last test of the name neither run has another one.
    · rw [List.getElem?_eq_none (by omega), List.getElem?_eq_none (by omega)]
  · intro h c hc
    obtain ⟨name, hname⟩ := exists_hasName hc
    rw [Confrontation.drift?_eq_none_iff hname]
    have hmem := List.mem_filter.2 ⟨hc, hname⟩
    rw [filter_confronted, h name] at hmem
    obtain ⟨k, -, rfl⟩ := List.mem_map.1 hmem
    rfl

end RunComparison

/-! ### The laws -/

namespace EventLog

open RunComparison TestRun

theorem hasDrift_compare_eq_false_iff (old new : EventLog) :
    (compare old new).hasDrift = false ↔ Rescheduled old.tests new.tests := by
  rw [← drifts_eq_nil_iff, hasDrift, compare]
  simp

/-- Exchanging the logs keeps the number of matches, and mirrors the drifts. -/
theorem compare_comm (old new : EventLog) :
    (compare new old).matching = (compare old new).matching ∧
    (compare new old).drifts.Perm ((compare old new).drifts.map Drift.mirror) := by
  have hswap := confronted_swap old.tests new.tests
  simp only [compare, matching_ofPairing, drifts_ofPairing]
  constructor
  · rw [hswap.countP_eq, List.countP_map]
    refine List.countP_congr fun c hc => ?_
    obtain ⟨name, hname⟩ := exists_hasName hc
    rw [Function.comp_apply, Confrontation.drift?_swap hname, Option.isNone_map]
  · refine (hswap.filterMap _).trans (List.Perm.of_eq ?_)
    rw [List.filterMap_map, List.map_filterMap]
    refine List.filterMap_congr fun c hc => ?_
    obtain ⟨name, hname⟩ := exists_hasName hc
    exact Confrontation.drift?_swap hname

/-- Rescheduling keeps the number of matches and, up to order, the drifts. -/
theorem compare_rescheduled {old old' new new' : EventLog}
    (hold : Rescheduled old.tests old'.tests) (hnew : Rescheduled new.tests new'.tests) :
    (compare old' new').matching = (compare old new).matching ∧
    (compare old' new').drifts.Perm (compare old new).drifts := by
  have hperm := confronted_perm hold hnew
  simp only [compare, matching_ofPairing, drifts_ofPairing]
  exact ⟨hperm.countP_eq _, hperm.filterMap _⟩

/-- Comparing traces treats both logs alike and does not see the schedule. With the logs exchanged
there are as many matches and, up to order, the mirrored drifts; not to drift is an equivalence; and
if each of the logs is replaced by one with the same tests, those of one name in the same order,
then there are as many matches and, up to order, the same drifts. -/
theorem compare_mirror :
    (∀ a b : EventLog, (compare b a).matching = (compare a b).matching ∧
      (compare b a).drifts.Perm ((compare a b).drifts.map Drift.mirror)) ∧
    (Equivalence fun a b : EventLog => (compare a b).hasDrift = false) ∧
    (∀ a a' b b' : EventLog, Rescheduled a.tests a'.tests → Rescheduled b.tests b'.tests →
      (compare a' b').matching = (compare a b).matching ∧
        (compare a' b').drifts.Perm (compare a b).drifts) := by
  refine ⟨compare_comm, ?_, fun _ _ _ _ => compare_rescheduled⟩
  simp only [hasDrift_compare_eq_false_iff]
  exact rescheduled_equivalence.comap EventLog.tests

/-- A log in which a test of another name is run between two tests of one name. -/
def interleaved : EventLog :=
  ⟨[.startTest "A", .endTest, .startTest "B", .plainCall "b" "f", .endTest, .startTest "A"]⟩

/-- The same tests, those of one name one after the other. -/
def sequential : EventLog :=
  ⟨[.startTest "A", .endTest, .startTest "A", .startTest "B", .plainCall "b" "f", .endTest]⟩

/-- The tests of a run in which the second and the third test differ. -/
def interleavedLater : EventLog :=
  ⟨[.startTest "A", .endTest, .startTest "B", .startTest "A", .plainCall "a" "g"]⟩

theorem rescheduled_interleaved : Rescheduled interleaved.tests sequential.tests := by
  intro name
  have hinterleaved : interleaved.tests =
      [⟨"A", [.endTest]⟩, ⟨"B", [.plainCall "b" "f", .endTest]⟩, ⟨"A", []⟩] := rfl
  have hsequential : sequential.tests =
      [⟨"A", [.endTest]⟩, ⟨"A", []⟩, ⟨"B", [.plainCall "b" "f", .endTest]⟩] := rfl
  rw [hinterleaved, hsequential]
  by_cases hname : name = "A"
  · subst hname
    rfl
  · simp [named, List.filter_cons, Ne.symm hname]

theorem compare_mirror_interleaved : Rescheduled interleaved.tests sequential.tests ∧
    (compare sequential interleavedLater).matching = 1 ∧
    (compare sequential interleavedLater).drifts.Perm [
      .event "B" 0 (some (.plainCall "b" "f")) none,
      .event "A" 0 none (some (.plainCall "a" "g"))] := by
  obtain ⟨hmatching, hdrifts⟩ := compare_mirror.2.2 interleaved sequential interleavedLater
    interleavedLater rescheduled_interleaved fun _ => rfl
  exact ⟨rescheduled_interleaved, hmatching, hdrifts⟩

end EventLog

end BuildDrift
