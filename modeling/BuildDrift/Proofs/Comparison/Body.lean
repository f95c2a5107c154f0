import BuildDrift.Comparison.Body
import BuildDrift.Proofs.Code.Ordered

/-!
# Identical bodies

Two bodies are found identical when they are of the same length and the operations at every
position have the same kind and the same operand, where targets are the same if they lead to the
same destination. In an ordered body a destination is the position of the operation at the target.

## Main definitions

* `Operand.Alike`: operands that are the same up to where operations stand.
* `Body.Alike`: bodies that are the same up to where operations stand.

## Main results

* `Body.compare_eq_identical_iff`: identical bodies are alike.
* `Body.Ordered.destination_eq_position_iff`: which targets lead to operations.
-/

namespace BuildDrift

/-- Operands that are the same, targets by where they lead. -/
inductive Operand.Alike (f g : Offset → Destination) : Operand → Operand → Prop
  /-- Operands that are no targets are equal. -/
  | same {a : Operand} (h : ∀ t, a ≠ .target t) : Alike f g a a
  /-- Targets lead to the same destination. -/
  | target {s t : Offset} (h : f s = g t) : Alike f g (.target s) (.target t)

namespace Body

theorem sameOperation_iff (f g : Offset → Destination) (o p : Operation) :
    sameOperation f g o p = true ↔ o.kind = p.kind ∧ Operand.Alike f g o.operand p.operand := by
  rcases o with ⟨offset, kind, a⟩
  rcases p with ⟨offset', kind', b⟩
  by_cases htargets : ∃ s t, a = .target s ∧ b = .target t
  · obtain ⟨s, t, rfl, rfl⟩ := htargets
    simp only [sameOperation, Bool.decide_and, Bool.and_eq_true, decide_eq_true_iff]
    refine and_congr_right fun _ => ⟨.target, fun h => ?_⟩
    cases h with
    | same h => exact absurd rfl (h s)
    | target h => exact h
  · have hsame : sameOperation f g ⟨offset, kind, a⟩ ⟨offset', kind', b⟩ =
        decide (Operation.Agrees ⟨offset, kind, a⟩ ⟨offset', kind', b⟩) := by
      simp only [sameOperation]
      split
      · next s t => exact absurd ⟨s, t, rfl, rfl⟩ htargets
      · rfl
    rw [hsame, decide_eq_true_iff]
    refine and_congr_right fun _ => ⟨fun h => ?_, fun h => ?_⟩
    · cases h
      exact .same fun t ht => htargets ⟨t, t, ht, ht⟩
    · cases h with
      | same h => rfl
      | target h => exact absurd ⟨_, _, rfl, rfl⟩ htargets

/-- Bodies that are the same up to where their operations stand. -/
structure Alike (old new : Body) : Prop where
  /-- They are of the same length. -/
  length : old.length = new.length
  /-- Operations at the same position do the same. -/
  kind : ∀ (k : ℕ) (o p : Operation), old[k]? = some o → new[k]? = some p → o.kind = p.kind
  /-- Operations at the same position act on the same. -/
  operand : ∀ (k : ℕ) (o p : Operation), old[k]? = some o → new[k]? = some p →
    Operand.Alike old.destination new.destination o.operand p.operand

theorem firstDifference_eq_none_iff (same : Operation → Operation → Bool) (i : ℕ)
    {old new : Body} (hlength : old.length = new.length) :
    firstDifference same i old new = none ↔
      ∀ (k : ℕ) o p, old[k]? = some o → new[k]? = some p → same o p = true := by
  induction old generalizing new i with
  | nil => simp [firstDifference]
  | cons o old ih =>
    cases new with
    | nil => exact absurd hlength (by simp)
    | cons p new =>
      rw [firstDifference]
      split_ifs with hsame
      · rw [ih (i + 1) (Nat.succ.inj hlength)]
        refine ⟨fun h k => ?_, fun h k => h (k + 1)⟩
        cases k with
        | zero =>
          rintro o' p' ⟨⟩ ⟨⟩
          exact hsame
        | succ k => exact h k
      · exact iff_of_false (by simp) fun h => hsame (h 0 o p rfl rfl)

/-- Bodies are found identical when they are alike. -/
theorem compare_eq_identical_iff (old new : Body) :
    compare old new = .identical ↔ Alike old new := by
  have hdestination (body : Body) :
      destinationIn body.positions body.codeEnd? = body.destination := rfl
  rw [compare]
  split_ifs with hlength
  · exact iff_of_false (by simp) fun h => hlength h.length
  · rw [ne_eq, not_not] at hlength
    simp only [hdestination]
    have hnone := firstDifference_eq_none_iff
      (sameOperation old.destination new.destination) 0 hlength
    simp only [sameOperation_iff] at hnone
    refine Iff.trans ?_ (hnone.trans ⟨fun h => ⟨hlength, fun k o p ho hp => (h k o p ho hp).1,
      fun k o p ho hp => (h k o p ho hp).2⟩,
      fun h k o p ho hp => ⟨h.kind k o p ho hp, h.operand k o p ho hp⟩⟩)
    cases firstDifference (sameOperation old.destination new.destination) 0 old new <;> simp

theorem Alike.refl (body : Body) : body.Alike body where
  length := rfl
  kind k o p ho hp := by rw [Option.some.inj (ho.symm.trans hp)]
  operand k o p ho hp := by
    rw [Option.some.inj (ho.symm.trans hp)]
    cases p.operand with
    | target t => exact .target rfl
    | _ => exact .same (by simp)

/-- A body is identical to itself. -/
theorem compare_self (body : Body) : compare body body = .identical :=
  (compare_eq_identical_iff body body).2 (.refl body)

/-! ### Destinations -/

variable {body : Body}

/-- An offset at which there is no operation leads to the end or nowhere. -/
theorem destination_of_forall_ne {t : Offset} (h : ∀ o ∈ body, o.offset ≠ t) :
    body.destination t = if some t = body.codeEnd? then .codeEnd else .nowhere t := by
  rw [destination, destinationIn, Ordered.positions_eq_none h]

/-- A target leads to the position of the operation at it. -/
theorem Ordered.destination_eq_position_iff (hb : body.Ordered) {t : Offset} {k : ℕ} :
    body.destination t = .position k ↔ body.HasOffset k t := by
  rw [← hb.positions_eq_some_iff, destination, destinationIn]
  cases body.positions[t]? with
  | some i => simp
  | none =>
    simp only [reduceCtorEq, iff_false]
    split_ifs <;> simp

end Body

end BuildDrift
