import BuildDrift.Proofs.Comparison.Body

/-!
# Moved bodies are identical

A body is moved by giving its operations other offsets, in the same order, and letting every target
follow the operation, or the end of the body, to which it leads. Moving changes every offset, the
end of the body and every target at once, but no destination, so the moved body is found identical.

## Main definitions

* `Body.Proper`: offsets strictly increase and the last operation ends in range.
* `Operand.Moved`, `Body.Moved`: operands and bodies moved to other offsets.

## Main results

* `Body.Ordered.destination_of_codeEnd?`: a target at the end leads to the end.
* `Body.Moved.compare_eq`: moved bodies are found identical.
-/

namespace BuildDrift

namespace Body

/-- The offsets of a body strictly increase, and its last operation ends in range. -/
structure Proper (body : Body) : Prop where
  ordered : body.Ordered
  ends : body.codeEnd?.isSome

/-- A target at the end of an ordered body leads to the end. -/
theorem Ordered.destination_of_codeEnd? {body : Body} (hb : body.Ordered) {e : Offset}
    (he : body.codeEnd? = some e) : body.destination e = .codeEnd := by
  have hnone : ∀ o ∈ body, o.offset ≠ e := by
    intro o ho
    have hlast := List.getLast?_eq_some_getLast (List.ne_nil_of_mem ho)
    rw [codeEnd?, hlast] at he
    exact UInt32.ne_of_lt (hb.offset_lt_end hlast he ho)
  rw [destination_of_forall_ne hnone, if_pos he.symm]

end Body

/-- An operand moved from one body to another: targets follow the operation at which they stand, or
the end of the body. -/
inductive Operand.Moved (old new : Body) : Operand → Operand → Prop
  | same {a : Operand} (h : ∀ t, a ≠ .target t) : Moved old new a a
  | operation {k : ℕ} {s t : Offset} (hs : old.HasOffset k s) (ht : new.HasOffset k t) :
      Moved old new (.target s) (.target t)
  | codeEnd {s t : Offset} (hs : old.codeEnd? = some s) (ht : new.codeEnd? = some t) :
      Moved old new (.target s) (.target t)

namespace Body

/-- A body with its operations moved to other offsets, and its targets moved along. -/
structure Moved (old new : Body) : Prop where
  old_proper : old.Proper
  new_proper : new.Proper
  length : old.length = new.length
  kind : ∀ (k : ℕ) (o p : Operation), old[k]? = some o → new[k]? = some p → o.kind = p.kind
  operand : ∀ (k : ℕ) (o p : Operation), old[k]? = some o → new[k]? = some p →
    Operand.Moved old new o.operand p.operand

namespace Moved

variable {old new : Body}

theorem symm (h : old.Moved new) : new.Moved old where
  old_proper := h.new_proper
  new_proper := h.old_proper
  length := h.length.symm
  kind k o p ho hp := (h.kind k p o hp ho).symm
  operand k o p ho hp := by
    have hmoved := h.operand k p o hp ho
    generalize o.operand = a at hmoved
    generalize p.operand = b at hmoved
    cases hmoved with
    | same hnone => exact .same hnone
    | operation hs ht => exact .operation ht hs
    | codeEnd hs ht => exact .codeEnd ht hs

theorem alike (h : old.Moved new) : old.Alike new where
  length := h.length
  kind := h.kind
  operand k o p ho hp := by
    have hmoved := h.operand k o p ho hp
    generalize o.operand = a at hmoved
    generalize p.operand = b at hmoved
    cases hmoved with
    | same hnone => exact .same hnone
    | operation hs ht =>
      refine .target ?_
      rw [h.old_proper.ordered.destination_eq_position_iff.2 hs,
        h.new_proper.ordered.destination_eq_position_iff.2 ht]
    | codeEnd hs ht =>
      refine .target ?_
      rw [h.old_proper.ordered.destination_of_codeEnd? hs,
        h.new_proper.ordered.destination_of_codeEnd? ht]

/-- Moved bodies are found identical. -/
theorem compare_eq (h : old.Moved new) : compare old new = .identical :=
  (compare_eq_identical_iff old new).2 h.alike

end Moved

end Body

end BuildDrift
