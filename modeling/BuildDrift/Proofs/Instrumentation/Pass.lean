import BuildDrift.Instrumentation.Injection
import Mathlib.Data.List.Basic

/-!
# The pass over a body

How an operation is treated follows from one of twelve rules, each with its guard. The pass applies
them position by position, and what it has found in front of a position is the outcome of the pass
over the operations before it. The object under test is known from the first recorded construction
on, and the slots of temporaries are counted on from the declared variables.

## Main definitions

* `Progress.Rule`: the rules of treatment.
* `Body.before?`: the operation in front of a position.
* `Progress.before`: what the pass has found in front of a position.

## Main results

* `Progress.treat_rule`: every treatment follows a rule.
* `Progress.getElem?_treatAll`, `Progress.rule_before`: the pass applies a rule at every position.
* `Progress.subject_before`: where the object under test comes from.
* `Progress.temporaries_before`: what adding a variable keeps, the pass keeps.
* `Progress.locals_before`: the variables that have been added.
-/

namespace BuildDrift

/-- Whether the result of a call is recorded. -/
def Treatment.isResultCall : Treatment → Bool
  | resultCall .. => true
  | _ => false

namespace Progress

/-- The rules by which an operation is treated, depending on whether it is protected and on the
operation in front of it. -/
inductive Rule (p : Progress) (o : Operation) :
    Bool → Option Operation → Treatment → Progress → Prop
  /-- An operation that is not protected is kept. -/
  | unprotected {previous} : Rule p o false previous .keep p
  /-- A store has nothing in front of it. -/
  | leadingStore (hstore : o.isStore = true) :
      Rule p o true none (.unrecorded .noPredecessor) p
  /-- A store behind anything but a construction is kept. -/
  | plainStore {previous} (hstore : o.isStore = true) (hkind : previous.kind ≠ .newObj) :
      Rule p o true (some previous) .keep p
  /-- A store behind a construction tells the object under test. -/
  | construction {previous slot} (hstore : o.isStore = true) (hkind : previous.kind = .newObj)
      (hslot : o.slot? = some slot) :
      Rule p o true (some previous) (.construction slot) { p with subject := some slot }
  /-- A store behind a construction does not say where it stores. -/
  | unknownVariable {previous} (hstore : o.isStore = true) (hkind : previous.kind = .newObj)
      (hslot : o.slot? = none) :
      Rule p o true (some previous) (.unrecorded .noVariable) p
  /-- An operation with nothing in front of it is kept. -/
  | leading (hstore : o.isStore = false) : Rule p o true none .keep p
  /-- An operation behind anything but a call is kept. -/
  | plain {previous} (hstore : o.isStore = false) (hkind : previous.kind ≠ .callVirt) :
      Rule p o true (some previous) .keep p
  /-- The callee of the call in front is not known. -/
  | unknownCallee {call} (hstore : o.isStore = false) (hkind : call.kind = .callVirt)
      (hcallee : call.method? = none) :
      Rule p o true (some call) (.unrecorded .noCallee) p
  /-- There is no object under test yet. -/
  | noSubject {call callee} (hstore : o.isStore = false) (hkind : call.kind = .callVirt)
      (hcallee : call.method? = some callee) (hsubject : p.subject = none) :
      Rule p o true (some call) (.unrecorded .noSubject) p
  /-- The call in front is recorded without its result. -/
  | plainCall {call callee subject} (hstore : o.isStore = false) (hkind : call.kind = .callVirt)
      (hcallee : call.method? = some callee) (hsubject : p.subject = some subject)
      (hpop : o.kind ≠ .pop) :
      Rule p o true (some call) (.plainCall subject callee) p
  /-- There is no result that could be dropped. -/
  | noResult {call callee subject} (hkind : call.kind = .callVirt)
      (hcallee : call.method? = some callee) (hsubject : p.subject = some subject)
      (hpop : o.kind = .pop) (hresult : callee.returnType = none) :
      Rule p o true (some call) (.unrecorded .noResult) p
  /-- There is no variable for the result. -/
  | noSlot {call callee subject result} (hkind : call.kind = .callVirt)
      (hcallee : call.method? = some callee) (hsubject : p.subject = some subject)
      (hpop : o.kind = .pop) (hresult : callee.returnType = some result)
      (hfull : p.temporaries.add? result = none) :
      Rule p o true (some call) (.unrecorded .noSlot) p
  /-- The call in front is recorded with its result. -/
  | resultCall {call callee subject result slot temporaries} (hkind : call.kind = .callVirt)
      (hcallee : call.method? = some callee) (hsubject : p.subject = some subject)
      (hpop : o.kind = .pop) (hresult : callee.returnType = some result)
      (hadd : p.temporaries.add? result = some (slot, temporaries)) :
      Rule p o true (some call) (.resultCall subject slot callee result) { p with temporaries }

private theorem treatStore_rule (p : Progress) (previous : Option Operation) {o : Operation}
    (hstore : o.isStore = true) :
    Rule p o true previous (p.treatStore previous o).1 (p.treatStore previous o).2 := by
  unfold treatStore
  cases previous with
  | none => exact .leadingStore hstore
  | some before =>
    by_cases hkind : before.kind = .newObj
    · cases hslot : o.slot? with
      | none => simpa only [hkind, ↓reduceIte] using .unknownVariable hstore hkind hslot
      | some slot => simpa only [hkind, ↓reduceIte] using .construction hstore hkind hslot
    · simpa only [hkind, ↓reduceIte] using .plainStore hstore hkind

private theorem treatAfterCall_rule (p : Progress) {call o : Operation}
    (hstore : o.isStore = false) (hkind : call.kind = .callVirt) :
    Rule p o true (some call) (p.treatAfterCall call o).1 (p.treatAfterCall call o).2 := by
  rw [treatAfterCall]
  cases hcallee : call.method? with
  | none => exact .unknownCallee hstore hkind hcallee
  | some callee =>
    cases hsubject : p.subject with
    | none => exact .noSubject hstore hkind hcallee hsubject
    | some subject =>
      by_cases hpop : o.kind = .pop
      · simp only [hpop, ↓reduceIte]
        cases hresult : callee.returnType with
        | none => exact .noResult hkind hcallee hsubject hpop hresult
        | some result =>
          cases hadd : p.temporaries.add? result with
          | none => simpa only [hadd] using .noSlot hkind hcallee hsubject hpop hresult hadd
          | some added =>
            simpa only [hadd, hsubject] using
              Rule.resultCall hkind hcallee hsubject hpop hresult hadd
      · simpa only [hpop, ↓reduceIte] using .plainCall hstore hkind hcallee hsubject hpop

/-- Every treatment follows a rule. -/
theorem treat_rule (p : Progress) (inTry : Bool) (previous : Option Operation) (o : Operation) :
    Rule p o inTry previous (p.treat inTry previous o).1 (p.treat inTry previous o).2 := by
  cases inTry with
  | false => exact .unprotected
  | true =>
    cases hstore : o.isStore with
    | true =>
      simp only [treat, hstore, ↓reduceIte]
      exact treatStore_rule p previous hstore
    | false =>
      simp only [treat, hstore, ↓reduceIte, Bool.false_eq_true]
      cases previous with
      | none => exact .leading hstore
      | some call =>
        by_cases hkind : call.kind = .callVirt
        · simpa only [hkind, ↓reduceIte] using treatAfterCall_rule p hstore hkind
        · simpa only [hkind, ↓reduceIte] using .plain hstore hkind

/-! ### The pass, position by position -/

section Pass

variable (inTry : Operation → Bool) (p : Progress)

theorem map_fst_treatAll (previous : Option Operation) (body : Body) :
    (p.treatAll inTry previous body).1.map Prod.fst = body := by
  induction body generalizing p previous with
  | nil => rfl
  | cons o body ih => exact congrArg (o :: ·) (ih ..)

theorem treatAll_append (previous : Option Operation) (xs ys : Body) :
    p.treatAll inTry previous (xs ++ ys) =
      let front := p.treatAll inTry previous xs
      let back := front.2.treatAll inTry (xs.getLast?.or previous) ys
      (front.1 ++ back.1, back.2) := by
  induction xs generalizing p previous with
  | nil => rfl
  | cons o xs ih =>
    have hlast : (o :: xs).getLast?.or previous = xs.getLast?.or (some o) := by
      cases xs with
      | nil => rfl
      | cons x xs => rw [List.getLast?_cons_cons]; simp [List.getLast?_cons]
    simp only [List.cons_append, treatAll, ih, hlast]

end Pass

end Progress

/-- The operation in front of a position. -/
def Body.before? (body : Body) (i : ℕ) : Option Operation :=
  (body.take i).getLast?

@[simp] theorem Body.before?_zero (body : Body) : body.before? 0 = none := by
  simp [before?]

theorem Body.before?_succ {body : Body} {i : ℕ} (hi : i < body.length) :
    body.before? (i + 1) = body[i]? := by
  rw [before?, List.take_add_one, List.getElem?_eq_getElem hi, Option.toList_some,
    List.getLast?_concat]

namespace Progress

variable (inTry : Operation → Bool) (p : Progress) (body : Body)

/-- What the pass over a body has found in front of a position. -/
def before (i : ℕ) : Progress :=
  (p.treatAll inTry none (body.take i)).2

@[simp] theorem before_zero : p.before inTry body 0 = p := rfl

theorem before_length : p.before inTry body body.length = (p.treatAll inTry none body).2 := by
  rw [before, List.take_length]

variable {body} {i : ℕ} {o : Operation} (hi : body[i]? = some o)
include hi

theorem before_succ : p.before inTry body (i + 1) =
    ((p.before inTry body i).treat (inTry o) (body.before? i) o).2 := by
  rw [before, List.take_add_one, hi, Option.toList_some, treatAll_append]
  simp only [treatAll, Option.or_none]
  rfl

/-- The treatment at a position. -/
theorem getElem?_treatAll : (p.treatAll inTry none body).1[i]? =
    some (o, ((p.before inTry body i).treat (inTry o) (body.before? i) o).1) := by
  obtain ⟨hlt, rfl⟩ := List.getElem?_eq_some_iff.1 hi
  have hlen : (p.treatAll inTry none (body.take i)).1.length = i := by
    rw [← List.length_map Prod.fst, map_fst_treatAll, List.length_take]
    omega
  conv_lhs => rw [← List.take_append_drop i body, List.drop_eq_getElem_cons hlt, treatAll_append]
  rw [List.getElem?_append_right (Nat.le_of_eq hlen), hlen, Nat.sub_self]
  simp only [treatAll, Option.or_none]
  rfl

/-- The pass applies a rule at every position. -/
theorem rule_before {t : Treatment} (ht : (p.treatAll inTry none body).1[i]? = some (o, t)) :
    Rule (p.before inTry body i) o (inTry o) (body.before? i) t (p.before inTry body (i + 1)) := by
  rw [getElem?_treatAll inTry p hi, Option.some.injEq, Prod.mk.injEq] at ht
  rw [before_succ inTry p hi, ← ht.2]
  exact treat_rule ..

end Progress

/-! ### What the pass has found -/

/-- A temporary takes the slot behind all variables there are. -/
theorem Temporaries.add?_eq_some {t u : Temporaries} {type : TypeRef} {slot : UInt16}
    (h : t.add? type = some (slot, u)) :
    slot.toNat = t.locals.length ∧ ∃ name, u.locals = t.locals ++ [⟨slot, name, type⟩] := by
  rw [add?] at h
  split_ifs at h with hlt
  simp only [Option.some.injEq, Prod.mk.injEq] at h
  obtain ⟨rfl, rfl⟩ := h
  exact ⟨UInt16.toNat_ofNat_of_lt' hlt, _, rfl⟩

/-- A treatment leaves the variables as they are or adds one. -/
theorem Progress.Rule.temporaries {p q : Progress} {o : Operation} {inTry : Bool}
    {previous : Option Operation} {t : Treatment} (h : Rule p o inTry previous t q) :
    q.temporaries = p.temporaries ∨
      ∃ type slot, p.temporaries.add? type = some (slot, q.temporaries) := by
  cases h with
  | resultCall hkind hcallee hsubject hpop hresult hadd => exact .inr ⟨_, _, hadd⟩
  | _ => exact .inl rfl

namespace Progress

variable (inTry : Operation → Bool) (p : Progress) (body : Body)

/-- How many results are recorded in front of a position. -/
def resultCallsBefore (i : ℕ) : ℕ :=
  ((p.treatAll inTry none body).1.take i).countP fun entry => entry.2.isResultCall

variable {body} {i : ℕ} (hi : i ≤ body.length)
include hi

/-- The object under test, once known, comes from the latest recorded construction. -/
theorem subject_before (hp : p.subject = none) {slot : UInt16}
    (h : (p.before inTry body i).subject = some slot) :
    ∃ j < i, (∃ o, (p.treatAll inTry none body).1[j]? = some (o, .construction slot)) ∧
      ∀ k, j < k → k < i → ∀ o s,
        (p.treatAll inTry none body).1[k]? ≠ some (o, .construction s) := by
  induction i with
  | zero =>
    rw [before_zero, hp] at h
    exact absurd h (by simp)
  | succ i ih =>
    have hget : body[i]? = some body[i] := List.getElem?_eq_getElem hi
    have ht := getElem?_treatAll inTry p hget
    generalize ((p.before inTry body i).treat (inTry body[i]) (body.before? i) body[i]).1 = t at ht
    have earlier (hne : ∀ s, t ≠ .construction s)
        (h : (p.before inTry body i).subject = some slot) :
        ∃ j < i + 1, (∃ o, (p.treatAll inTry none body).1[j]? = some (o, .construction slot)) ∧
          ∀ k, j < k → k < i + 1 → ∀ o s,
            (p.treatAll inTry none body).1[k]? ≠ some (o, .construction s) := by
      obtain ⟨j, hj, ho, hlatest⟩ := ih (Nat.le_of_lt hi) h
      refine ⟨j, Nat.lt_succ_of_lt hj, ho, fun k hjk hk o s => ?_⟩
      rcases Nat.lt_or_eq_of_le (Nat.le_of_lt_succ hk) with hk | rfl
      · exact hlatest k hjk hk o s
      · rw [ht]
        exact fun heq => hne s (Prod.mk.inj (Option.some.inj heq)).2
    have hrule := rule_before inTry p hget ht
    generalize p.before inTry body (i + 1) = q at hrule h
    generalize body.before? i = previous at hrule
    generalize inTry body[i] = protected_ at hrule
    cases hrule with
    | construction =>
      cases h
      exact ⟨i, Nat.lt_succ_self i, ⟨body[i], ht⟩, fun k hik hk => by omega⟩
    | _ => exact earlier (by simp) h

/-- What holds of the declared variables, and still holds when one is added, holds of the variables
at every position. -/
theorem temporaries_before {P : Temporaries → Prop} (hp : P p.temporaries)
    (hadd : ∀ t u type slot, t.add? type = some (slot, u) → P t → P u) :
    P (p.before inTry body i).temporaries := by
  induction i with
  | zero => exact hp
  | succ i ih =>
    have hget : body[i]? = some body[i] := List.getElem?_eq_getElem hi
    have hrule := rule_before inTry p hget (getElem?_treatAll inTry p hget)
    rcases hrule.temporaries with hsame | ⟨type, slot, hadded⟩
    · rw [hsame]
      exact ih (Nat.le_of_lt hi)
    · exact hadd _ _ type slot hadded (ih (Nat.le_of_lt hi))

/-- The variables are the declared ones and one for every recorded result. -/
theorem locals_before : ∃ added : List LocalVariable,
    (p.before inTry body i).temporaries.locals = p.temporaries.locals ++ added ∧
      added.length = p.resultCallsBefore inTry body i := by
  induction i with
  | zero => exact ⟨[], by simp, rfl⟩
  | succ i ih =>
    obtain ⟨added, hlocals, hlength⟩ := ih (Nat.le_of_lt hi)
    have hget : body[i]? = some body[i] := List.getElem?_eq_getElem hi
    have ht := getElem?_treatAll inTry p hget
    generalize ((p.before inTry body i).treat (inTry body[i]) (body.before? i) body[i]).1 = t at ht
    have hrule := rule_before inTry p hget ht
    have hcount : p.resultCallsBefore inTry body (i + 1) =
        p.resultCallsBefore inTry body i + t.isResultCall.toNat := by
      rw [resultCallsBefore, List.take_add_one, ht, Option.toList_some, List.countP_append,
        List.countP_singleton]
      cases t <;> rfl
    rw [hcount]
    generalize p.before inTry body (i + 1) = q at hrule
    generalize body.before? i = previous at hrule
    generalize inTry body[i] = protected_ at hrule
    cases hrule with
    | @resultCall call callee subject result slot temporaries hkind hcallee hsubject hpop hresult
        hadd =>
      obtain ⟨-, name, hadded⟩ := Temporaries.add?_eq_some hadd
      refine ⟨added ++ [⟨slot, name, result⟩], ?_, ?_⟩
      · rw [hadded, hlocals, List.append_assoc]
      · rw [List.length_append, hlength]
        rfl
    | _ => exact ⟨added, hlocals, hlength⟩

end Progress

end BuildDrift
