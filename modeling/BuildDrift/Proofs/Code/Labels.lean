import BuildDrift.Proofs.Code.Assembly
import Mathlib.Algebra.BigOperators.Group.List.Basic

/-!
# Labels

Operations that go to labels and marks of labels come in any order. A step that marks a label
again is refused, and what has been built stays as it is; so steps amount to the same steps without
these marks. When the body is complete, every operation that goes to a label gets the position at
which the label has been marked first. If some label has not been marked at all, there is no body,
and the first such label that an operation goes to is given.

## Main definitions

* `BodyBuilder.attempt`, `BodyBuilder.assemble`: steps of which some may be refused.
* `BodyBuilder.firstMarks`: steps without those that mark a label again.
* `BodyBuilder.Settled`: the operations of a body as steps have appended them.

## Main results

* `BodyBuilder.run_firstMarks`: refused steps can be left out.
* `BodyBuilder.position?_assemble`: a label stands where it has been marked first.
* `BodyBuilder.build_eq_ok`, `BodyBuilder.build_eq_error`: the body, or the label that is missing.
* `BodyBuilder.build_assemble`: what becomes of labels.
-/

namespace BuildDrift

namespace BodyBuilder

variable {Label : Type}

/-- Whether a step appends an operation. -/
def Step.appends : Step Label → Bool
  | append .. | appendTo .. => true
  | _ => false

theorem length_lay (target : Label → Offset) (place : ℕ) (steps : List (Step Label)) :
    (lay target place steps).length = steps.countP Step.appends := by
  induction steps generalizing place with
  | nil => rfl
  | cons s steps ih => cases s <;> simp [lay, Step.appends, List.countP_cons, ih]

/-- The operation that the first of some steps appends behind others. -/
theorem getElem?_lay_append (target : Label → Offset) {steps front back : List (Step Label)}
    (h : steps = front ++ back) : (lay target 0 steps)[front.countP Step.appends]? =
      (lay target (extent front) back)[0]? := by
  rw [h, lay_append, ← length_lay target 0 front, List.getElem?_append_right (Nat.le_refl _),
    Nat.sub_self, Nat.zero_add]

theorem map_snd_goals (i : ℕ) (steps : List (Step Label)) :
    (goals i steps).map Prod.snd = steps.filterMap Step.goal? := by
  induction steps generalizing i with
  | nil => rfl
  | cons s steps ih => cases s <;> simp [goals, Step.goal?, List.filterMap_cons, ih]

/-- A label that is marked is marked first somewhere. -/
theorem exists_first_mark {steps : List (Step Label)} {label : Label}
    (h : label ∈ steps.filterMap Step.marked?) : ∃ front back,
      steps = front ++ .mark label :: back ∧ label ∉ front.filterMap Step.marked? := by
  induction steps with
  | nil => simp at h
  | cons s steps ih =>
    by_cases hs : s = .mark label
    · exact ⟨[], steps, by rw [hs, List.nil_append], by simp⟩
    · have hmarked : s.marked? ≠ some label := by
        cases s with
        | mark other => exact fun heq => hs (congrArg Step.mark (Option.some.inj heq))
        | _ => exact fun heq => by cases heq
      obtain ⟨a, ha, hlabel⟩ := List.mem_filterMap.1 h
      have ha' : a ∈ steps := (List.mem_cons.1 ha).resolve_left (by rintro rfl; exact hmarked hlabel)
      obtain ⟨front, back, rfl, hfront⟩ := ih (List.mem_filterMap.2 ⟨a, ha', hlabel⟩)
      refine ⟨s :: front, back, rfl, ?_⟩
      rw [List.mem_filterMap]
      rintro ⟨t, ht, hlabel'⟩
      rcases List.mem_cons.1 ht with rfl | ht
      · exact hmarked hlabel'
      · exact hfront (List.mem_filterMap.2 ⟨t, ht, hlabel'⟩)

variable [DecidableEq Label]

/-! ### Steps that may be refused -/

/-- What has been built after a step; a step that is refused changes nothing. -/
def attempt (b : BodyBuilder Label) (s : Step Label) : BodyBuilder Label :=
  match b.step s with
  | .ok b₁ => b₁
  | .error _ => b

/-- What has been built after a sequence of steps, some of which may be refused. -/
def assemble (steps : List (Step Label)) : BodyBuilder Label :=
  steps.foldl attempt empty

/-- Operations like others, and those that go to labels, are appended by such steps. -/
example (b : BodyBuilder Label) (o : Operation) (opcode : UInt16) (label : Label) :
    b.step (.append o.kind o.operand) = .ok (b.appendLike o) ∧
      b.step (.appendTo .leave label) = .ok (b.leaveTo label) ∧
      b.step (.appendTo (.branch opcode) label) = .ok (b.branchTo opcode label) ∧
      b.step (.appendTo (.branch OpKind.branchAlways) label) = .ok (b.jumpTo label) :=
  ⟨rfl, rfl, rfl, rfl⟩

/-- The steps without those that mark a label that is taken or has been marked before. -/
def firstMarks : List Label → List (Step Label) → List (Step Label)
  | _, [] => []
  | taken, .mark label :: steps =>
    if label ∈ taken then firstMarks taken steps
    else .mark label :: firstMarks (label :: taken) steps
  | taken, s :: steps => s :: firstMarks taken steps

/-- Without the steps that mark a label again no step is refused, and what is built is the same. -/
theorem run_firstMarks (b : BodyBuilder Label) (steps : List (Step Label)) :
    b.run (firstMarks (b.labels.map Prod.fst) steps) = .ok (steps.foldl attempt b) := by
  -- The taken labels are those of the builder, which every mark that is kept makes one more.
  induction steps generalizing b with
  | nil => rfl
  | cons s steps ih =>
    cases s with
    | mark label =>
      by_cases h : label ∈ b.labels.map Prod.fst
      · have hattempt : b.attempt (.mark label) = b := by rw [attempt, step, mark_of_mem h]
        rw [firstMarks, if_pos h, ih b, List.foldl_cons, hattempt]
      · have hattempt : b.attempt (.mark label) =
            { b with labels := (label, b.position) :: b.labels } := by
          rw [attempt, step, mark_of_notMem h]
        rw [firstMarks, if_neg h, run, List.foldlM_cons, step, mark_of_notMem h, List.foldl_cons,
          hattempt]
        exact ih { b with labels := (label, b.position) :: b.labels }
    | append kind operand => exact ih (b.append kind operand)
    | appendTo kind label => exact ih (b.appendTo kind label)
    | skip bytes => exact ih (b.skip bytes)

/-! ### What leaving marks out keeps -/

theorem mem_marked_firstMarks {taken : List Label} {steps : List (Step Label)} {label : Label} :
    label ∈ (firstMarks taken steps).filterMap Step.marked? ↔
      label ∈ steps.filterMap Step.marked? ∧ label ∉ taken := by
  induction steps generalizing taken with
  | nil => simp [firstMarks]
  | cons s steps ih =>
    cases s with
    | mark other =>
      rw [firstMarks]
      split_ifs with h
      · rw [ih]
        simp only [Step.marked?, List.filterMap_cons, List.mem_cons]
        refine ⟨fun hmem => ⟨.inr hmem.1, hmem.2⟩, fun hmem => ⟨hmem.1.resolve_left ?_, hmem.2⟩⟩
        rintro rfl
        exact hmem.2 h
      · simp only [Step.marked?, List.filterMap_cons, List.mem_cons, ih]
        by_cases heq : label = other
        · simp [heq, h]
        · simp [heq]
    | _ => simpa [firstMarks, Step.marked?] using ih

theorem nodup_marked_firstMarks (taken : List Label) (steps : List (Step Label)) :
    ((firstMarks taken steps).filterMap Step.marked?).Nodup := by
  induction steps generalizing taken with
  | nil => exact List.nodup_nil
  | cons s steps ih =>
    cases s with
    | mark label =>
      rw [firstMarks]
      split_ifs
      · exact ih taken
      · refine List.nodup_cons.2 ⟨fun h => ?_, ih (label :: taken)⟩
        exact (mem_marked_firstMarks.1 h).2 List.mem_cons_self
    | _ => exact ih taken

theorem goals_firstMarks (taken : List Label) (i : ℕ) (steps : List (Step Label)) :
    goals i (firstMarks taken steps) = goals i steps := by
  induction steps generalizing taken i with
  | nil => rfl
  | cons s steps ih =>
    cases s with
    | mark label =>
      rw [firstMarks]
      split_ifs <;> simp [goals, ih]
    | _ => simp [firstMarks, goals, ih]

theorem lay_firstMarks (target : Label → Offset) (taken : List Label) (place : ℕ)
    (steps : List (Step Label)) :
    lay target place (firstMarks taken steps) = lay target place steps := by
  induction steps generalizing taken place with
  | nil => rfl
  | cons s steps ih =>
    cases s with
    | mark label =>
      rw [firstMarks]
      split_ifs <;> simp [lay, ih]
    | _ => simp [firstMarks, lay, ih]

theorem extent_firstMarks (taken : List Label) (steps : List (Step Label)) :
    extent (firstMarks taken steps) = extent steps := by
  induction steps generalizing taken with
  | nil => rfl
  | cons s steps ih =>
    cases s with
    | mark label =>
      rw [firstMarks]
      split_ifs <;> simp [Step.size, ih]
    | _ => simp [firstMarks, ih]

/-- The first mark of a label is kept, at its place. -/
theorem mem_marks_firstMarks {front back : List (Step Label)} {label : Label}
    (h : label ∉ front.filterMap Step.marked?) {taken : List Label} (htaken : label ∉ taken)
    (place : ℕ) : (label, place + extent front) ∈
      marks place (firstMarks taken (front ++ .mark label :: back)) := by
  induction front generalizing taken place with
  | nil => simp [firstMarks, htaken, marks]
  | cons s front ih =>
    cases s with
    | mark other =>
      rw [List.filterMap_cons, Step.marked?, List.mem_cons, not_or] at h
      rw [List.cons_append, firstMarks, extent_cons, Step.size, Nat.zero_add]
      split_ifs
      · exact ih h.2 htaken place
      · exact List.mem_cons_of_mem _ (ih h.2 (by simp [h.1, htaken]) place)
    | _ =>
      rw [extent_cons, ← Nat.add_assoc]
      exact ih h htaken _

/-! ### What steps amount to -/

theorem assemble_eq (steps : List (Step Label)) :
    assemble steps = empty.extended 0 (firstMarks [] steps) := by
  have hrun : empty.run (firstMarks [] steps) = .ok (empty.extended 0 (firstMarks [] steps)) :=
    run_eq_ok rfl (by simpa [empty] using nodup_marked_firstMarks [] steps)
  exact Except.ok.inj ((run_firstMarks empty steps).symm.trans hrun)

theorem position_assemble (steps : List (Step Label)) :
    (assemble steps).position = .capped (extent steps) := by
  rw [assemble_eq, extended, extent_firstMarks, Nat.zero_add]

theorem mem_labels_assemble {steps : List (Step Label)} {label : Label} :
    label ∈ (assemble steps).labels.map Prod.fst ↔ label ∈ steps.filterMap Step.marked? := by
  have hkeys : (assemble steps).labels.map Prod.fst =
      ((firstMarks [] steps).filterMap Step.marked?).reverse := by
    rw [assemble_eq, ← map_fst_marks 0]
    simp [extended, empty]
  rw [hkeys, List.mem_reverse, mem_marked_firstMarks]
  simp

/-- A label stands where it has been marked first. -/
theorem position?_assemble {front back : List (Step Label)} {label : Label}
    (h : label ∉ front.filterMap Step.marked?) :
    (assemble (front ++ .mark label :: back)).position? label =
      some (assemble front).position := by
  have hmem : (label, 0 + extent front) ∈
      marks 0 (firstMarks [] (front ++ .mark label :: back)) :=
    mem_marks_firstMarks h List.not_mem_nil 0
  rw [assemble_eq, position?_extended (nodup_marked_firstMarks [] _) hmem, position_assemble,
    Nat.zero_add]

theorem position?_assemble_eq_none {steps : List (Step Label)} {label : Label} :
    (assemble steps).position? label = none ↔ label ∉ steps.filterMap Step.marked? := by
  rw [← mem_labels_assemble, position?, List.lookup_eq_none_iff, List.mem_map]
  simp only [bne_iff_ne, ne_eq, not_exists, not_and, @eq_comm _ label]

/-! ### Completing the body -/

/-- Where an operation goes that goes to a label. -/
def landing (steps : List (Step Label)) (label : Label) : Offset :=
  ((assemble steps).position? label).getD 0

/-- The body, when every label that is gone to is marked. -/
theorem build_eq_ok {steps : List (Step Label)}
    (h : ∀ label ∈ steps.filterMap Step.goal?, label ∈ steps.filterMap Step.marked?) :
    (assemble steps).build = .ok (lay (landing steps) 0 steps) := by
  rw [assemble_eq, ← lay_firstMarks _ []]
  refine build_extended (nodup_marked_firstMarks [] steps) fun label hlabel => ?_
  rw [← map_snd_goals 0, goals_firstMarks, map_snd_goals] at hlabel
  obtain ⟨front, back, rfl, hfront⟩ := exists_first_mark (h label hlabel)
  refine ⟨_, mem_marks_firstMarks hfront List.not_mem_nil 0, ?_⟩
  rw [landing, position?_assemble hfront, position_assemble, Option.getD_some, Nat.zero_add]

/-- Resolving goals one by one stops at the first label without a position. -/
private theorem foldlM_resolve_eq_error (b : BodyBuilder Label) {branches : List (ℕ × Label)}
    {label : Label}
    (h : (branches.map Prod.snd).find? (fun l => (b.position? l).isNone) = some label)
    (body : Array Operation) : branches.foldlM b.resolve body = .error (.undefined label) := by
  induction branches generalizing body with
  | nil => simp at h
  | cons branch branches ih =>
    rw [List.map_cons, List.find?_cons] at h
    rw [List.foldlM_cons, resolve]
    cases hposition : b.position? branch.2 with
    | none =>
      rw [hposition] at h
      cases h
      rfl
    | some target =>
      rw [hposition] at h
      exact ih h _

/-- The first label that is gone to and not marked is missing. -/
theorem build_eq_error {steps : List (Step Label)} {label : Label}
    (h : (steps.filterMap Step.goal?).find? (fun l => l ∉ steps.filterMap Step.marked?) =
      some label) : (assemble steps).build = .error (.undefined label) := by
  have hgoals : (assemble steps).pending.reverse = goals 0 steps := by
    rw [assemble_eq, ← goals_firstMarks []]
    simp [extended, empty]
  have hmissing : (fun l => decide (l ∉ steps.filterMap Step.marked?)) =
      fun l => ((assemble steps).position? l).isNone := by
    funext l
    rw [Bool.eq_iff_iff, decide_eq_true_iff, Option.isNone_iff_eq_none,
      position?_assemble_eq_none]
  rw [hmissing, ← map_snd_goals 0] at h
  rw [build, hgoals, foldlM_resolve_eq_error _ h]
  rfl

/-- Every operation of a body is as a step has appended it, at the position reached by then. -/
structure Settled (steps : List (Step Label)) (body : Body) : Prop where
  /-- There is one operation for every step that appends one. -/
  length : body.length = steps.countP Step.appends
  /-- An operation that goes to no label is kept. -/
  append : ∀ front kind operand back, steps = front ++ .append kind operand :: back →
    body[front.countP Step.appends]? = some ⟨(assemble front).position, kind, operand⟩
  /-- An operation that goes to a label goes to the position at which the label is marked first. -/
  appendTo : ∀ front kind label back, steps = front ++ .appendTo kind label :: back →
    ∃ before behind, steps = before ++ .mark label :: behind ∧
      label ∉ before.filterMap Step.marked? ∧
      body[front.countP Step.appends]? =
        some ⟨(assemble front).position, kind, .target (assemble before).position⟩
  /-- The position at which a label is marked is that of the next operation, if there is one and no
  bytes are left free in front of it. -/
  next : ∀ before label between s behind,
    steps = before ++ .mark label :: (between ++ s :: behind) →
    (∀ t ∈ between, ∃ other, t = .mark other) → s.appends = true →
    ∃ o, body[before.countP Step.appends]? = some o ∧ o.offset = (assemble before).position

theorem settled_lay {steps : List (Step Label)}
    (h : ∀ label ∈ steps.filterMap Step.goal?, label ∈ steps.filterMap Step.marked?) :
    Settled steps (lay (landing steps) 0 steps) where
  length := length_lay (landing steps) 0 steps
  append front kind operand back hsteps := by
    rw [position_assemble, getElem?_lay_append _ hsteps]
    rfl
  appendTo front kind label back hsteps := by
    have hgoal : label ∈ steps.filterMap Step.goal? := by simp [hsteps, Step.goal?]
    obtain ⟨before, behind, hmark, hbefore⟩ := exists_first_mark (h label hgoal)
    have hlanding : landing steps label = (assemble before).position := by
      rw [landing, hmark, position?_assemble hbefore, Option.getD_some]
    refine ⟨before, behind, hmark, hbefore, ?_⟩
    rw [← hlanding, position_assemble, getElem?_lay_append _ hsteps]
    rfl
  next before label between s behind hsteps hbetween hs := by
    -- Further marks take up no bytes and append nothing.
    have hextent : extent between = 0 := by
      refine List.sum_eq_zero fun n hn => ?_
      obtain ⟨t, ht, rfl⟩ := List.mem_map.1 hn
      obtain ⟨other, rfl⟩ := hbetween t ht
      rfl
    have hcount : (before ++ .mark label :: between).countP Step.appends =
        before.countP Step.appends := by
      have hnone : between.countP Step.appends = 0 := by
        refine List.countP_eq_zero.2 fun t ht => ?_
        obtain ⟨other, rfl⟩ := hbetween t ht
        exact Bool.false_ne_true
      simp [hnone, Step.appends]
    have hsplit : steps = (before ++ .mark label :: between) ++ s :: behind := by
      rw [hsteps, List.append_assoc, List.cons_append]
    have hsum : extent (before ++ .mark label :: between) = extent before := by
      rw [extent_append, extent_cons, hextent, Step.size, Nat.zero_add, Nat.add_zero]
    rw [position_assemble, ← hcount, getElem?_lay_append _ hsplit, hsum]
    cases s with
    | append kind operand => exact ⟨_, rfl, rfl⟩
    | appendTo kind goal => exact ⟨_, rfl, rfl⟩
    | _ => cases hs

/-- If some label is gone to and not marked, there is a first such label. -/
theorem exists_missing {steps : List (Step Label)}
    (h : ¬∀ label ∈ steps.filterMap Step.goal?, label ∈ steps.filterMap Step.marked?) :
    ∃ label, (steps.filterMap Step.goal?).find? (fun l => l ∉ steps.filterMap Step.marked?) =
      some label := by
  push Not at h
  obtain ⟨label, hgoal, hmarked⟩ := h
  rw [← Option.isSome_iff_exists, List.find?_isSome]
  exact ⟨label, hgoal, decide_eq_true hmarked⟩

/-- There is a body only if every label that is gone to is marked. -/
theorem marked_of_build {steps : List (Step Label)} {body : Body}
    (h : (assemble steps).build = .ok body) :
    ∀ label ∈ steps.filterMap Step.goal?, label ∈ steps.filterMap Step.marked? := by
  by_contra hmissing
  obtain ⟨label, hlabel⟩ := exists_missing hmissing
  exact absurd (h.symm.trans (build_eq_error hlabel)) (by simp)

theorem settled_of_build {steps : List (Step Label)} {body : Body}
    (h : (assemble steps).build = .ok body) : Settled steps body := by
  have hmarked := marked_of_build h
  obtain rfl := Except.ok.inj ((build_eq_ok hmarked).symm.trans h)
  exact settled_lay hmarked

/-- Marking a label again changes nothing. -/
theorem assemble_mark_of_mem {steps : List (Step Label)} {label : Label}
    (h : label ∈ steps.filterMap Step.marked?) :
    assemble (steps ++ [.mark label]) = assemble steps := by
  rw [assemble, List.foldl_append, List.foldl_cons, List.foldl_nil, ← assemble, attempt, step,
    mark_of_mem (mem_labels_assemble.2 h)]

/-- There is a body if every label that is gone to is marked, and otherwise the first label that
is not is given. An operation that goes to a label gets the position at which the label is marked
first, and everything else stays as it has been appended. Marking a label again is refused, and
what is built is the same as without the steps that do so. -/
theorem build_assemble (steps : List (Step Label)) :
    ((∃ body, (assemble steps).build = .ok body) ↔
      ∀ label ∈ steps.filterMap Step.goal?, label ∈ steps.filterMap Step.marked?) ∧
    (∀ label, (steps.filterMap Step.goal?).find? (fun l => l ∉ steps.filterMap Step.marked?) =
      some label → (assemble steps).build = .error (.undefined label)) ∧
    (∀ body, (assemble steps).build = .ok body → Settled steps body) ∧
    (∀ label, label ∈ steps.filterMap Step.marked? →
      (assemble steps).mark label = .error (.duplicate label) ∧
        assemble (steps ++ [.mark label]) = assemble steps) ∧
    (∀ label, label ∉ steps.filterMap Step.marked? → ∃ b, (assemble steps).mark label = .ok b) ∧
    empty.run (firstMarks [] steps) = .ok (assemble steps) :=
  ⟨⟨fun ⟨_, h⟩ => marked_of_build h, fun h => ⟨_, build_eq_ok h⟩⟩,
    fun _ => build_eq_error,
    fun _ => settled_of_build,
    fun _ h => ⟨mark_of_mem (mem_labels_assemble.2 h), assemble_mark_of_mem h⟩,
    fun _ h => ⟨_, mark_of_notMem (mt mem_labels_assemble.1 h)⟩,
    run_firstMarks empty steps⟩

/-- A label may be gone to in front of its mark and behind it, and the second mark of it counts for
nothing. -/
example : (assemble [.mark 0, .append (.other 0) .none, .appendTo .leave 1, .appendTo .leave 0,
      .mark 1, .mark 0, .append .ret .none] : BodyBuilder ℕ).build =
    .ok [⟨0, .other 0, .none⟩, ⟨1, .leave, .target 11⟩, ⟨6, .leave, .target 0⟩,
      ⟨11, .ret, .none⟩] := by
  rfl

end BodyBuilder

end BuildDrift
