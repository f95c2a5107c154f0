import BuildDrift.Proofs.Code.Labels
import BuildDrift.Proofs.Model.Valid

/-!
# Bodies that run out of offsets

Operations are laid out at the sum of the bytes in front of them, and offsets stay at the greatest
one when the sum is out of range. Such a body is never valid: the operation at the greatest offset
ends out of range, because every operation takes up at least one byte. So whether a body is valid
is decided by the exact end of its last operation, and in a valid body no offset is capped.

## Main definitions

* `Body.Placed`: operations stand at places that leave room for them.
* `BodyBuilder.skippedBefore`, `BodyBuilder.exactPlace`: the bytes in front of an operation.

## Main results

* `Body.Placed.ends_iff`: whether the last operation ends in range.
* `MethodDefinition.valid_iff_of_placed`: when a method with such a body is valid.
* `MethodDefinition.toNat_offset_of_valid`: in a valid method no offset is capped.
* `BodyBuilder.placed_lay`: steps place operations exactly.
* `BodyBuilder.build_exact`: the layout of a body that steps build.
-/

namespace BuildDrift

/-! ### Operations at places -/

namespace Body

/-- Operations stand at places, or at the greatest offset if the place is out of range, and no
operation reaches into the next place. -/
structure Placed (body : Body) (place : ℕ → ℕ) : Prop where
  /-- An operation stands at its place. -/
  offset : ∀ k (o : Operation), body[k]? = some o → o.offset = .capped (place k)
  /-- An operation ends in front of the next place. -/
  room : ∀ k (o : Operation), body[k]? = some o → place k + o.size ≤ place (k + 1)

namespace Placed

variable {body : Body} {place : ℕ → ℕ} (h : body.Placed place)
include h

theorem place_lt {j k : ℕ} (hjk : j < k) (hk : k ≤ body.length) : place j < place k := by
  have hsucc {i : ℕ} (hi : i < body.length) : place i < place (i + 1) := by
    have hroom := h.room i _ (List.getElem?_eq_getElem hi)
    have hpos : 0 < body[i].size := Operation.sizeOf_pos _ _
    omega
  induction hjk with
  | refl => exact hsucc hk
  | step _ ih => exact Nat.lt_trans (ih (Nat.le_of_lt hk)) (hsucc hk)

/-- Whether the last operation ends in range does not depend on the cap. -/
theorem ends_iff {last : Operation} (hlast : body.getLast? = some last) :
    last.offset.toNat + last.size < UInt32.size ↔
      place (body.length - 1) + last.size < UInt32.size := by
  -- No operation fits behind the greatest offset, so a capped one ends out of range either way.
  have hpos : 0 < last.size := Operation.sizeOf_pos _ _
  rw [List.getLast?_eq_getElem?] at hlast
  rw [h.offset _ _ hlast, Offset.toNat_capped]
  omega

variable (hend : place (body.length - 1) < UInt32.size)
include hend

/-- If the place of the last operation is in range, no offset is capped. -/
theorem toNat_offset {k : ℕ} {o : Operation} (hk : body[k]? = some o) :
    o.offset.toNat = place k := by
  have hlt : k < body.length := (List.getElem?_eq_some_iff.1 hk).1
  have hle : place k ≤ place (body.length - 1) := by
    rcases Nat.lt_or_eq_of_le (Nat.le_sub_one_of_lt hlt) with hlt' | heq
    · exact Nat.le_of_lt (h.place_lt hlt' (Nat.sub_le _ _))
    · exact Nat.le_of_eq (congrArg place heq)
  rw [h.offset _ _ hk, Offset.toNat_capped_of_lt (Nat.lt_of_le_of_lt hle hend)]

/-- If the place of the last operation is in range, offsets strictly increase. -/
theorem ordered : body.Ordered := by
  refine List.pairwise_iff_getElem.2 fun j k hj hk hjk => ?_
  rw [UInt32.lt_iff_toNat_lt, h.toNat_offset hend (List.getElem?_eq_getElem hj),
    h.toNat_offset hend (List.getElem?_eq_getElem hk)]
  exact h.place_lt hjk (Nat.le_of_lt hk)

end Placed

end Body

namespace MethodDefinition

variable {m : MethodDefinition} {place : ℕ → ℕ} (h : m.operations.Placed place)
include h

/-- A method whose operations stand at places is valid if its last operation ends in range and its
regions and locals are in order. -/
theorem valid_iff_of_placed
    (hregions : ∀ r ∈ m.regions, r.tryStart ≤ r.tryEnd ∧ r.handlerStart ≤ r.handlerEnd)
    (hlocals : ∀ (k : ℕ) v, m.locals[k]? = some v → v.index.toNat = k) :
    m.Valid ↔ ∀ last, m.operations.getLast? = some last →
      place (m.operations.length - 1) + last.size < UInt32.size := by
  constructor
  · intro hm last hlast
    exact (h.ends_iff hlast).1 (hm.ends last hlast)
  · intro hend
    refine ⟨?_, fun last hlast => (h.ends_iff hlast).2 (hend last hlast), hregions, hlocals⟩
    cases hlast : m.operations.getLast? with
    | none =>
      rw [List.getLast?_eq_none_iff.1 hlast]
      exact List.Pairwise.nil
    | some last => exact h.ordered (Nat.lt_of_add_right_lt (hend last hlast))

/-- A method of operations alone is valid if there are none or the last one ends in range. -/
theorem valid_iff_of_placed_alone (hregions : m.regions = []) (hlocals : m.locals = []) :
    m.Valid ↔ m.operations = [] ∨ ∃ last, m.operations.getLast? = some last ∧
      place (m.operations.length - 1) + last.size ≤ Offset.greatest.toNat := by
  have hgreatest : Offset.greatest.toNat = UInt32.size - 1 := rfl
  rw [valid_iff_of_placed h (by simp [hregions]) (by simp [hlocals])]
  cases hlast : m.operations.getLast? with
  | none => simp [List.getLast?_eq_none_iff.1 hlast]
  | some last =>
    have hne : m.operations ≠ [] := fun hnil => by simp [hnil] at hlast
    simp only [Option.some.injEq, forall_eq', exists_eq_left', hne, false_or, hgreatest]
    exact (Nat.le_sub_one_iff_lt (by decide)).symm

/-- In a valid method no offset is capped. -/
theorem toNat_offset_of_valid (hm : m.Valid) {k : ℕ} {o : Operation}
    (hk : m.operations[k]? = some o) : o.offset.toNat = place k := by
  have hlast := List.getLast?_eq_some_getLast (List.ne_nil_of_mem (List.mem_of_getElem? hk))
  have hend := (h.ends_iff hlast).1 (hm.ends _ hlast)
  exact h.toNat_offset (Nat.lt_of_add_right_lt hend) hk

end MethodDefinition

/-! ### Bodies that steps build -/

namespace BodyBuilder

variable {Label : Type}

/-- The bytes that are left free in front of the operation at a position. -/
def skippedBefore : List (Step Label) → ℕ → ℕ
  | [], _ => 0
  | .skip bytes :: steps, k => bytes.toNat + skippedBefore steps k
  | .mark _ :: steps, k => skippedBefore steps k
  | _ :: _, 0 => 0
  | _ :: steps, k + 1 => skippedBefore steps k

/-- The bytes in front of the operation at a position of a body that steps build: the sizes of the
operations before it, and what is left free. -/
def exactPlace (steps : List (Step Label)) (body : Body) (k : ℕ) : ℕ :=
  ((body.take k).map Operation.size).sum + skippedBefore steps k

theorem skippedBefore_le_succ (steps : List (Step Label)) (k : ℕ) :
    skippedBefore steps k ≤ skippedBefore steps (k + 1) := by
  induction steps generalizing k with
  | nil => exact Nat.le_refl 0
  | cons s steps ih =>
    cases s with
    | skip bytes => exact Nat.add_le_add_left (ih k) _
    | mark label => exact ih k
    | append | appendTo =>
      cases k with
      | zero => exact Nat.zero_le _
      | succ k => exact ih k

/-- Operations are laid out at the bytes in front of them. -/
theorem offset_of_getElem?_lay {target : Label → Offset} {place : ℕ} {steps : List (Step Label)}
    {k : ℕ} {o : Operation} (h : (lay target place steps)[k]? = some o) :
    o.offset = .capped (place + exactPlace steps (lay target place steps) k) := by
  induction steps generalizing place k with
  | nil => simp [lay] at h
  | cons s steps ih =>
    cases s with
    | append kind operand =>
      cases k with
      | zero =>
        cases h
        rfl
      | succ k =>
        rw [ih h]
        simp [exactPlace, lay, skippedBefore, Operation.size, Nat.add_assoc]
    | appendTo kind label =>
      cases k with
      | zero =>
        cases h
        rfl
      | succ k =>
        rw [ih h]
        simp [exactPlace, lay, skippedBefore, Operation.size, Nat.add_assoc,
          Operation.sizeOf_target kind (target label) 0]
    | skip bytes =>
      rw [ih h]
      simp only [exactPlace, lay, skippedBefore]
      congr 1
      omega
    | mark label =>
      rw [ih h]
      rfl

/-- Steps place operations exactly. -/
theorem placed_lay (target : Label → Offset) (steps : List (Step Label)) :
    (lay target 0 steps).Placed (exactPlace steps (lay target 0 steps)) where
  offset k o hk := by rw [offset_of_getElem?_lay hk, Nat.zero_add]
  room k o hk := by
    have hskipped := skippedBefore_le_succ steps k
    rw [exactPlace, exactPlace, List.take_add_one, hk, Option.toList_some, List.map_append,
      List.sum_append, List.map_singleton, List.sum_singleton]
    omega

/-- When all labels that are gone to are marked, steps build a body in which every operation stands
at the exact sum of the bytes in front of it, capped once. A method with this body is valid exactly
if there are no operations or the last one ends in range, and then no offset is capped. -/
theorem build_exact [DecidableEq Label] {steps : List (Step Label)}
    (h : ∀ label ∈ steps.filterMap Step.goal?, label ∈ steps.filterMap Step.marked?) :
    ∃ body, (assemble steps).build = .ok body ∧ body.length = steps.countP Step.appends ∧
      (∀ k o, body[k]? = some o →
        o.offset.toNat = min (exactPlace steps body k) Offset.greatest.toNat) ∧
      ∀ m : MethodDefinition, m.operations = body → m.regions = [] → m.locals = [] →
        (m.validate = .ok () ↔ body = [] ∨ ∃ last, body.getLast? = some last ∧
          exactPlace steps body (body.length - 1) + last.size ≤ Offset.greatest.toNat) ∧
        (m.validate = .ok () → body.Ordered ∧
          ∀ k o, body[k]? = some o → o.offset.toNat = exactPlace steps body k) := by
  have hplaced := placed_lay (landing steps) steps
  refine ⟨_, build_eq_ok h, length_lay _ 0 steps, fun k o hk => ?_, ?_⟩
  · rw [hplaced.offset k o hk, Offset.toNat_capped]
    rfl
  · intro m hm hregions hlocals
    rw [m.validate_eq_ok_iff, ← hm]
    rw [← hm] at hplaced
    exact ⟨m.valid_iff_of_placed_alone hplaced hregions hlocals, fun hvalid =>
      ⟨hvalid.ordered, fun k o hk => m.toNat_offset_of_valid hplaced hvalid hk⟩⟩

/-- Steps that leave so many bytes free that the last operation ends one byte out of range. -/
def overfull : List (Step ℕ) :=
  [.appendTo .leave 0, .skip 0xFFFFFFF9, .append .pop .none, .mark 0, .append .ret .none]

/-- A body can be built whose offsets are all exact, but no method with it is valid. -/
theorem build_exact_overfull :
    (∀ label ∈ overfull.filterMap Step.goal?, label ∈ overfull.filterMap Step.marked?) ∧
      ∃ body, (assemble overfull).build = .ok body ∧
        body = [⟨0, .leave, .target Offset.greatest⟩, ⟨0xFFFFFFFE, .pop, .none⟩,
          ⟨Offset.greatest, .ret, .none⟩] ∧
        ∀ m : MethodDefinition, m.operations = body → m.regions = [] → m.locals = [] →
          m.validate ≠ .ok () := by
  have hmarked : ∀ label ∈ overfull.filterMap Step.goal?,
      label ∈ overfull.filterMap Step.marked? := by decide
  obtain ⟨body, hbuild, -, -, hvalid⟩ := build_exact hmarked
  have hbody : body = [⟨0, .leave, .target Offset.greatest⟩, ⟨0xFFFFFFFE, .pop, .none⟩,
      ⟨Offset.greatest, .ret, .none⟩] := Except.ok.inj (hbuild.symm.trans (by rfl))
  refine ⟨hmarked, body, hbuild, hbody, fun m hm hregions hlocals hok => ?_⟩
  rw [(hvalid m hm hregions hlocals).1, hbody] at hok
  revert hok
  decide

end BodyBuilder

end BuildDrift
