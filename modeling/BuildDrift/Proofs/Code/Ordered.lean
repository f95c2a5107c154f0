import BuildDrift.Code.Index
import BuildDrift.Proofs.Code.Assembly
import Mathlib.Data.List.Basic

/-!
# Bodies in order

A body is *ordered* when the offsets of its operations are strictly increasing. In an ordered body
an offset belongs to at most one position, the order of offsets is the order of positions, and
looking an offset up by halving or through the positions by offset finds that position.

## Main definitions

* `Body.Ordered`: the offsets are strictly increasing.
* `Body.HasOffset`: the operation at a position stands at an offset.

## Main results

* `Body.checkOrder_eq_ok_iff`: what is checked is that the body is ordered.
* `Body.Ordered.offset_lt_iff`, `Body.Ordered.offset_inj`: offsets and positions.
* `Body.Ordered.positions_eq_some_iff`, `Body.Ordered.standsAt_iff`: the look-ups.
-/

namespace BuildDrift

namespace Body

/-- The offsets of a body are strictly increasing. -/
def Ordered (body : Body) : Prop :=
  body.Pairwise fun o p => o.offset < p.offset

/-- The operation at a position stands at an offset. -/
def HasOffset (body : Body) (k : ℕ) (offset : Offset) : Prop :=
  ∃ o, body[k]? = some o ∧ o.offset = offset

theorem checkOrder_eq_ok_iff : (body : Body) → checkOrder body = .ok () ↔ Ordered body
  | [] => by simp [checkOrder, Ordered]
  | [o] => by simp [checkOrder, Ordered]
  | o :: p :: rest => by
    have ih : checkOrder (p :: rest) = .ok () ↔ Ordered (p :: rest) :=
      checkOrder_eq_ok_iff (p :: rest)
    rw [checkOrder, Ordered, List.pairwise_cons]
    split_ifs with h
    · simp only [false_iff, not_and]
      intro hlt
      exact absurd (hlt p List.mem_cons_self) (UInt32.not_lt.2 h)
    · rw [ih]
      refine ⟨fun hrest => ⟨?_, hrest⟩, fun hrest => hrest.2⟩
      have hop : o.offset < p.offset := UInt32.not_le.1 h
      intro q hq
      rcases List.mem_cons.1 hq with rfl | hq
      · exact hop
      · exact UInt32.lt_trans hop ((List.pairwise_cons.1 hrest).1 q hq)

namespace Ordered

variable {body : Body} (hb : Ordered body) {i j : ℕ} {o p : Operation}
include hb

theorem offset_lt (hi : body[i]? = some o) (hj : body[j]? = some p) (h : i < j) :
    o.offset < p.offset := by
  obtain ⟨hi, rfl⟩ := List.getElem?_eq_some_iff.1 hi
  obtain ⟨hj, rfl⟩ := List.getElem?_eq_some_iff.1 hj
  exact List.pairwise_iff_getElem.1 hb i j _ _ h

/-- The order of offsets is the order of positions. -/
theorem offset_lt_iff (hi : body[i]? = some o) (hj : body[j]? = some p) :
    o.offset < p.offset ↔ i < j := by
  refine ⟨fun h => ?_, hb.offset_lt hi hj⟩
  by_contra hle
  rcases Nat.lt_or_eq_of_le (Nat.not_lt.1 hle) with hlt | rfl
  · exact absurd (hb.offset_lt hj hi hlt) (UInt32.lt_asymm h)
  · rw [hi, Option.some.injEq] at hj
    exact UInt32.lt_irrefl _ (hj ▸ h)

theorem offset_le_iff (hi : body[i]? = some o) (hj : body[j]? = some p) :
    o.offset ≤ p.offset ↔ i ≤ j := by
  rw [← UInt32.not_lt, hb.offset_lt_iff hj hi, Nat.not_lt]

/-- An offset belongs to at most one position. -/
theorem offset_inj (hi : body[i]? = some o) (hj : body[j]? = some p)
    (h : o.offset = p.offset) : i = j :=
  Nat.le_antisymm ((hb.offset_le_iff hi hj).1 (UInt32.le_of_eq h))
    ((hb.offset_le_iff hj hi).1 (UInt32.le_of_eq h.symm))

theorem hasOffset_iff {offset : Offset} (hi : body.HasOffset i offset) :
    body.HasOffset j offset ↔ j = i := by
  obtain ⟨o, ho, rfl⟩ := hi
  refine ⟨fun ⟨p, hp, hoffset⟩ => hb.offset_inj hp ho hoffset, ?_⟩
  rintro rfl
  exact ⟨o, ho, rfl⟩

/-- Searching for an offset from the front finds the operation at it. -/
theorem findIdx?_eq_some {offset : Offset} (hi : body.HasOffset i offset) :
    body.findIdx? (fun o => o.offset = offset) = some i := by
  obtain ⟨o, ho, rfl⟩ := hi
  obtain ⟨hlt, hget⟩ := List.getElem?_eq_some_iff.1 ho
  refine List.findIdx?_eq_some_iff_getElem.2 ⟨hlt, by simp [hget], fun j hj => ?_⟩
  have hoffset := hb.offset_lt (List.getElem?_eq_getElem (Nat.lt_trans hj hlt)) ho hj
  simpa using UInt32.ne_of_lt hoffset

theorem nodup_offsets : (body.map Operation.offset).Nodup := by
  rw [List.Nodup, List.pairwise_map]
  exact List.Pairwise.imp (fun h => UInt32.ne_of_lt h) hb

/-- Every operation stands in front of the end of the last one. -/
theorem offset_lt_end {last : Operation} (hlast : body.getLast? = some last) {e : Offset}
    (he : last.endOffset? = some e) (ho : o ∈ body) : o.offset < e := by
  obtain ⟨i, hi⟩ := List.mem_iff_getElem?.1 ho
  rw [List.getLast?_eq_getElem?] at hlast
  have hle : o.offset ≤ last.offset :=
    (hb.offset_le_iff hi hlast).2 (Nat.le_sub_one_of_lt (List.getElem?_eq_some_iff.1 hi).1)
  exact UInt32.lt_of_le_of_lt hle (Operation.offset_lt_endOffset? he)

/-! ### Look-ups -/

private theorem pairwise_keys :
    (body.zipIdx.map fun (o, i) => (o.offset, i)).Pairwise fun a b => (a.1 == b.1) = false := by
  have h : (body.zipIdx.map Prod.fst).Pairwise fun o p => (o.offset == p.offset) = false := by
    rw [List.zipIdx_map_fst]
    exact hb.imp fun hlt => beq_eq_false_iff_ne.2 (UInt32.ne_of_lt hlt)
  rw [List.pairwise_map] at h ⊢
  exact h

theorem positions_getElem (hi : body[i]? = some o) : body.positions[o.offset]? = some i := by
  refine Std.HashMap.getElem?_ofList_of_mem (beq_self_eq_true o.offset) hb.pairwise_keys ?_
  exact List.mem_map.2 ⟨(o, i), List.mem_zipIdx_iff_getElem?.2 hi, rfl⟩

omit hb in
theorem positions_eq_none {offset : Offset} (h : ∀ o ∈ body, o.offset ≠ offset) :
    body.positions[offset]? = none := by
  refine Std.HashMap.getElem?_ofList_of_contains_eq_false ?_
  rw [← Bool.not_eq_true, List.contains_iff_mem, List.map_map, List.mem_map]
  rintro ⟨⟨o, i⟩, hmem, rfl⟩
  exact h o (List.mem_of_getElem? (List.mem_zipIdx_iff_getElem?.1 hmem)) rfl

/-- The positions by offset give exactly the position at which an operation with the offset
stands. -/
theorem positions_eq_some_iff {offset : Offset} :
    body.positions[offset]? = some i ↔ body.HasOffset i offset := by
  constructor
  · intro h
    by_cases hex : ∀ o ∈ body, o.offset ≠ offset
    · rw [positions_eq_none hex] at h
      exact absurd h (by simp)
    · push Not at hex
      obtain ⟨o, ho, rfl⟩ := hex
      obtain ⟨k, hk⟩ := List.mem_iff_getElem?.1 ho
      rw [hb.positions_getElem hk, Option.some.injEq] at h
      exact ⟨o, h ▸ hk, rfl⟩
  · rintro ⟨o, hi, rfl⟩
    exact hb.positions_getElem hi

/-- Halving finds an offset between two positions exactly if an operation with the offset stands
there. -/
private theorem standsBetween_iff (offset : Offset) (low high : ℕ) (hhigh : high ≤ body.length) :
    standsBetween body.toArray offset low high = true ↔
      ∃ i o, low ≤ i ∧ i < high ∧ body[i]? = some o ∧ o.offset = offset := by
  fun_induction standsBetween body.toArray offset low high with
  | case1 low high h middle hnone =>
    rw [List.getElem?_toArray, List.getElem?_eq_none_iff] at hnone
    omega
  | case2 low high h middle o ho heq =>
    rw [List.getElem?_toArray] at ho
    exact iff_of_true rfl ⟨middle, o, by omega, by omega, ho, heq⟩
  | case3 low high h middle o ho hne hlt ih =>
    rw [List.getElem?_toArray] at ho
    rw [ih hhigh]
    constructor
    · rintro ⟨i, p, hlow, hi, hp, hoff⟩
      exact ⟨i, p, by omega, hi, hp, hoff⟩
    · rintro ⟨i, p, hlow, hi, hp, rfl⟩
      exact ⟨i, p, (hb.offset_lt_iff ho hp).1 hlt, hi, hp, rfl⟩
  | case4 low high h middle o ho hne hlt ih =>
    rw [List.getElem?_toArray] at ho
    rw [ih (by omega)]
    constructor
    · rintro ⟨i, p, hlow, hi, hp, hoff⟩
      exact ⟨i, p, hlow, by omega, hp, hoff⟩
    · rintro ⟨i, p, hlow, hi, hp, rfl⟩
      refine ⟨i, p, hlow, ?_, hp, rfl⟩
      have hle : p.offset ≤ o.offset := UInt32.not_lt.1 hlt
      exact (hb.offset_lt_iff hp ho).1 (UInt32.lt_of_le_of_ne hle (Ne.symm hne))
  | case5 low high h =>
    simp only [Bool.false_eq_true, false_iff]
    rintro ⟨i, p, hlow, hi, -⟩
    omega

/-- Halving finds exactly the offsets of operations. -/
theorem standsAt_iff {offset : Offset} :
    standsAt body.toArray offset = true ↔ ∃ o ∈ body, o.offset = offset := by
  rw [standsAt, List.size_toArray, hb.standsBetween_iff offset 0 _ (Nat.le_refl _)]
  constructor
  · rintro ⟨i, o, -, -, ho, hoff⟩
    exact ⟨o, List.mem_of_getElem? ho, hoff⟩
  · rintro ⟨o, ho, hoff⟩
    obtain ⟨i, hi⟩ := List.mem_iff_getElem?.1 ho
    exact ⟨i, o, Nat.zero_le i, (List.getElem?_eq_some_iff.1 hi).1, hi, hoff⟩

end Ordered

end Body

namespace BodyIndex

/-- The index of an ordered body contains exactly the offsets of its operations. -/
theorem contains_ofBody_iff {body : Body} (hb : body.Ordered) {index : BodyIndex}
    (h : ofBody body = .ok index) {offset : Offset} :
    index.contains offset = true ↔ ∃ o ∈ body, o.offset = offset := by
  rw [ofBody, (Body.checkOrder_eq_ok_iff body).2 hb] at h
  cases h
  simp only [contains, position?, Option.isSome_iff_exists, hb.positions_eq_some_iff]
  constructor
  · rintro ⟨i, o, hi, hoff⟩
    exact ⟨o, List.mem_of_getElem? hi, hoff⟩
  · rintro ⟨o, ho, hoff⟩
    obtain ⟨i, hi⟩ := List.mem_iff_getElem?.1 ho
    exact ⟨i, o, hi, hoff⟩

end BodyIndex

end BuildDrift
