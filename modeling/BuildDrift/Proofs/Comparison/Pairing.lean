import BuildDrift.Comparison.Run
import Mathlib.Data.List.Basic

/-!
# Tests and their partners

Tests are paired by taking, for one test of the older run after another, the first of its name that
is still free in the newer run. What comes of it does not depend on how tests of different names are
interleaved: the test that is the `k`-th of its name in the older run is paired with the one that is
the `k`-th of that name in the newer run, and the tests behind the last one that has a partner are
left over.

## Main definitions

* `TestRun.named`: the tests of a name, in order.
* `TestRun.numbered`: every test with the number of tests of its name in front of it.

## Main results

* `RunComparison.pairs_pair`: the partner of a test has its name and its number.
* `RunComparison.rest_pair`: the tests that are left over.
* `RunComparison.length_pair`: tests with partners and tests left over are all tests.
-/

namespace BuildDrift

namespace TestRun

/-- The tests of a name, in order. -/
def named (name : String) (ts : List TestRun) : List TestRun :=
  ts.filter fun t => t.name = name

/-- A test with its number, when there is one more test in front of it. -/
def behind (t : TestRun) (entry : TestRun × ℕ) : TestRun × ℕ :=
  (entry.1, if entry.1.name = t.name then entry.2 + 1 else entry.2)

/-- Every test with the number of tests of its name in front of it. -/
def numbered : List TestRun → List (TestRun × ℕ)
  | [] => []
  | t :: ts => (t, 0) :: (numbered ts).map (behind t)

/-- The test of a run that has the name and the number of a test. -/
def partner? (ts : List TestRun) (entry : TestRun × ℕ) : Option TestRun :=
  (named entry.1.name ts)[entry.2]?

variable {name : String} {t : TestRun} {ts : List TestRun}

@[simp] theorem named_nil : named name [] = [] := rfl

theorem named_cons_self : named t.name (t :: ts) = t :: named t.name ts :=
  List.filter_cons_of_pos (by simp)

theorem named_cons_of_ne (h : t.name ≠ name) : named name (t :: ts) = named name ts :=
  List.filter_cons_of_neg (by simpa using h)

theorem name_of_mem_named (h : t ∈ named name ts) : t.name = name := by
  simpa using (List.mem_filter.1 h).2

/-- The first test of a name. -/
theorem find?_eq_named (name : String) (ts : List TestRun) :
    ts.find? (fun t => t.name = name) = (named name ts)[0]? := by
  rw [named, ← List.head?_eq_getElem?, List.head?_filter]

/-- Without the first test of a name, the tests of that name are one less. -/
theorem named_eraseP_self (name : String) (ts : List TestRun) :
    named name (ts.eraseP fun t => t.name = name) = (named name ts).tail := by
  induction ts with
  | nil => rfl
  | cons t ts ih =>
    by_cases h : t.name = name
    · subst h
      rw [List.eraseP_cons_of_pos (by simp), named_cons_self, List.tail_cons]
    · rw [List.eraseP_cons_of_neg (by simpa using h), named_cons_of_ne h, named_cons_of_ne h, ih]

/-- Without a test of another name, the tests of a name are the same. -/
theorem named_eraseP_of_ne {other : String} (hne : other ≠ name) (ts : List TestRun) :
    named name (ts.eraseP fun t => t.name = other) = named name ts := by
  induction ts with
  | nil => rfl
  | cons t ts ih =>
    by_cases h : t.name = other
    · rw [List.eraseP_cons_of_pos (by simpa using h), named_cons_of_ne (h ▸ hne)]
    · rw [List.eraseP_cons_of_neg (by simpa using h)]
      by_cases hname : t.name = name
      · subst hname
        rw [named_cons_self, named_cons_self, ih]
      · rw [named_cons_of_ne hname, named_cons_of_ne hname, ih]

/-- The number of a test counts the tests of its name in front of it. -/
theorem getElem?_numbered (ts : List TestRun) (i : ℕ) :
    (numbered ts)[i]? = ts[i]?.map fun t => (t, (named t.name (ts.take i)).length) := by
  induction ts generalizing i with
  | nil => rfl
  | cons t ts ih =>
    cases i with
    | zero => rfl
    | succ i =>
      rw [numbered, List.getElem?_cons_succ, List.getElem?_cons_succ, List.getElem?_map, ih]
      cases ts[i]? with
      | none => rfl
      | some u =>
        rw [Option.map_some, Option.map_some, Option.map_some, List.take_succ_cons, behind]
        by_cases h : u.name = t.name
        · rw [if_pos h, h, named_cons_self, List.length_cons]
        · rw [if_neg h, named_cons_of_ne (Ne.symm h)]

theorem map_fst_numbered (ts : List TestRun) : (numbered ts).map Prod.fst = ts :=
  List.ext_getElem? fun i => by
    rw [List.getElem?_map, getElem?_numbered, Option.map_map]
    exact Option.map_id'

/-- The tests of one name are numbered one after another. -/
theorem filter_numbered (name : String) (ts : List TestRun) :
    (numbered ts).filter (fun entry => entry.1.name = name) = (named name ts).zipIdx := by
  induction ts with
  | nil => rfl
  | cons t ts ih =>
    have hrest : ((numbered ts).map (behind t)).filter (fun entry => entry.1.name = name) =
        (named name ts).zipIdx.map (behind t) := by
      rw [← ih, List.filter_map]
      rfl
    rw [numbered]
    by_cases h : t.name = name
    · subst h
      rw [List.filter_cons_of_pos (by simp), hrest, named_cons_self, List.zipIdx_cons,
        Nat.zero_add, ← List.map_snd_add_zipIdx_eq_zipIdx (n := 1) (k := 0)]
      -- With one more test of the name in front, every number is one more.
      refine congrArg _ (List.map_congr_left fun entry hentry => ?_)
      have hname : entry.1.name = t.name :=
        name_of_mem_named (List.fst_mem_of_mem_zipIdx hentry)
      rw [behind, if_pos hname]
      rfl
    · rw [List.filter_cons_of_neg (by simpa using h), hrest, named_cons_of_ne h]
      refine (List.map_congr_left fun entry hentry => ?_).trans (List.map_id _)
      have hname : entry.1.name = name := name_of_mem_named (List.fst_mem_of_mem_zipIdx hentry)
      rw [behind, if_neg fun hself => h (hself.symm.trans hname), id]

end TestRun

namespace RunComparison

open TestRun

variable {olds news : List TestRun}

/-- The partner of a test is the test of the newer run that has its name and number. -/
theorem pairs_pair (olds news : List TestRun) : (pair olds news).pairs =
    (numbered olds).map fun entry => (entry.1, partner? news entry) := by
  induction olds generalizing news with
  | nil => rfl
  | cons old olds ih =>
    rw [pair, numbered, List.map_cons, find?_eq_named, ih, List.map_map]
    refine congrArg _ (List.map_congr_left fun entry _ => ?_)
    rw [Function.comp_apply, behind, partner?, partner?]
    by_cases h : entry.1.name = old.name
    · rw [if_pos h, h, named_eraseP_self, List.getElem?_tail]
    · rw [if_neg h, named_eraseP_of_ne (Ne.symm h)]

/-- Tests whose number is not below a bound for their name. -/
def surplus (claimed : String → ℕ) (ts : List TestRun) : List TestRun :=
  ((numbered ts).filter fun entry => claimed entry.1.name ≤ entry.2).map Prod.fst

theorem surplus_cons (claimed : String → ℕ) (t : TestRun) (ts : List TestRun) :
    surplus claimed (t :: ts) = (if claimed t.name = 0 then [t] else []) ++
      surplus (fun name => claimed name - if name = t.name then 1 else 0) ts := by
  have hbehind : ((numbered ts).map (behind t)).filter
      (fun entry => claimed entry.1.name ≤ entry.2) = ((numbered ts).filter fun entry =>
        claimed entry.1.name - (if entry.1.name = t.name then 1 else 0) ≤ entry.2).map
          (behind t) := by
    rw [List.filter_map]
    refine congrArg _ (List.filter_congr fun entry _ => ?_)
    rw [Function.comp_apply, behind]
    by_cases h : entry.1.name = t.name
    · simp [h]
    · simp [h]
  rw [surplus, surplus, numbered, List.filter_cons, hbehind]
  by_cases h : claimed t.name = 0
  · simp [h, behind, Function.comp_def]
  · simp [h, behind, Function.comp_def]

/-- One more claim on a name is a claim on the first test of that name. -/
theorem surplus_eraseP (claimed : String → ℕ) (name : String) (ts : List TestRun) :
    surplus claimed (ts.eraseP fun t => t.name = name) =
      surplus (fun n => claimed n + if n = name then 1 else 0) ts := by
  induction ts generalizing claimed with
  | nil => rfl
  | cons t ts ih =>
    by_cases h : t.name = name
    · subst h
      rw [List.eraseP_cons_of_pos (by simp), surplus_cons]
      simp
    · rw [List.eraseP_cons_of_neg (by simpa using h), surplus_cons, surplus_cons, ih, if_neg h]
      have hclaims (n : String) : claimed n - (if n = t.name then 1 else 0) +
          (if n = name then 1 else 0) =
            claimed n + (if n = name then 1 else 0) - (if n = t.name then 1 else 0) := by
        by_cases hn : n = t.name
        · rw [if_pos hn, if_neg (hn ▸ h), Nat.add_zero, Nat.add_zero]
        · rw [if_neg hn]
          rfl
      rw [funext hclaims]
      rfl

/-- Left over are the tests of the newer run that are the partner of no test: no test of the older
run has their name and number. -/
theorem rest_pair (olds news : List TestRun) : (pair olds news).rest =
    ((numbered news).filter fun entry => (partner? olds entry).isNone).map Prod.fst := by
  have hsurplus : (pair olds news).rest = surplus (fun name => (named name olds).length) news := by
    induction olds generalizing news with
    | nil => simp [pair, surplus, map_fst_numbered]
    | cons old olds ih =>
      rw [pair, ih, surplus_eraseP]
      refine congrArg (surplus · news) (funext fun name => ?_)
      by_cases h : name = old.name
      · rw [if_pos h, h, named_cons_self, List.length_cons]
      · rw [if_neg h, named_cons_of_ne (Ne.symm h), Nat.add_zero]
  rw [hsurplus, surplus]
  refine congrArg _ (List.filter_congr fun entry _ => ?_)
  rw [partner?, Bool.eq_iff_iff, decide_eq_true_iff, Option.isNone_iff_eq_none,
    List.getElem?_eq_none_iff]

/-- The newer tests are the partners and the tests that are left over. -/
theorem length_pair (olds news : List TestRun) :
    (pair olds news).pairs.countP (fun entry => entry.2.isSome) + (pair olds news).rest.length =
      news.length := by
  induction olds generalizing news with
  | nil => simp [pair]
  | cons old olds ih =>
    have hrest := ih (news.eraseP fun t => t.name = old.name)
    simp only [pair, List.countP_cons]
    cases hfind : news.find? fun t => t.name = old.name with
    | none =>
      rw [List.find?_eq_none] at hfind
      rw [List.eraseP_of_forall_not hfind] at hrest ⊢
      simpa using hrest
    | some u =>
      have hname : u.name = old.name := by simpa using List.find?_some hfind
      have hlength := List.length_eraseP_add_one (p := fun t => decide (t.name = old.name))
        (List.mem_of_find?_eq_some hfind) (decide_eq_true hname)
      simp only [Option.isSome_some, if_true]
      omega

end RunComparison

end BuildDrift
