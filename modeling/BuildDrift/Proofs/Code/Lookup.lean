import BuildDrift.Instrumentation.Treatment
import BuildDrift.Proofs.Comparison.LayoutBlind

/-!
# What stands at an offset

The index of a body answers from a table of positions what could be read off the order of the body:
which operation stands at an offset, and which ones stand next to it. Three more answers are given
elsewhere, each in its own way: where a target leads, where it is moved to when the body is laid out
anew, and whether halving finds it. All of them depend on the same distinction: an operation stands
at the offset, or the body ends there, or neither.

## Main definitions

* `Body.IsPredecessor`, `Body.IsSuccessor`: the nearest operation on either side of an offset.
* `BodyIndex.Follows`: the answers of an index are those of the order of the body.
* `BodyIndex.Concurs`: all answers about one offset.

## Main results

* `Body.Ordered.isPredecessor_iff`, `Body.Ordered.isSuccessor_iff`: what is nearest in offset is
  next in position.
* `BodyIndex.ofBody_lookups`: the index of an ordered body follows the order, and all answers
  concur.
-/

namespace BuildDrift

/-! ### Neighbours -/

namespace Body

/-- An operation of the body has the greatest offset below an offset. -/
structure IsPredecessor (body : Body) (p : Operation) (offset : Offset) : Prop where
  mem : p ∈ body
  lt : p.offset < offset
  greatest : ∀ q ∈ body, q.offset < offset → q.offset ≤ p.offset

/-- An operation of the body has the least offset above an offset. -/
structure IsSuccessor (body : Body) (p : Operation) (offset : Offset) : Prop where
  mem : p ∈ body
  lt : offset < p.offset
  least : ∀ q ∈ body, offset < q.offset → p.offset ≤ q.offset

namespace Ordered

variable {body : Body} (hb : body.Ordered) {i : ℕ} {o p : Operation}
include hb

/-- Below the offset of an operation, the operation in front of it is the nearest. -/
theorem isPredecessor_iff (hi : body[i]? = some o) :
    body.IsPredecessor p o.offset ↔ ∃ j, j + 1 = i ∧ body[j]? = some p := by
  constructor
  · rintro ⟨hmem, hlt, hgreatest⟩
    obtain ⟨j, hj⟩ := List.mem_iff_getElem?.1 hmem
    have hji : j < i := (hb.offset_lt_iff hj hi).1 hlt
    have hbetween : ¬j + 1 < i := by
      intro hnext
      obtain ⟨q, hq⟩ : ∃ q, body[j + 1]? = some q :=
        ⟨_, List.getElem?_eq_getElem (Nat.lt_trans hnext (List.getElem?_eq_some_iff.1 hi).1)⟩
      have hle := hgreatest q (List.mem_of_getElem? hq) (hb.offset_lt hq hi hnext)
      exact absurd ((hb.offset_le_iff hq hj).1 hle) (by omega)
    exact ⟨j, by omega, hj⟩
  · rintro ⟨j, rfl, hj⟩
    refine ⟨List.mem_of_getElem? hj, hb.offset_lt hj hi j.lt_succ_self, fun q hq hlt => ?_⟩
    obtain ⟨k, hk⟩ := List.mem_iff_getElem?.1 hq
    exact (hb.offset_le_iff hk hj).2 (Nat.le_of_lt_succ ((hb.offset_lt_iff hk hi).1 hlt))

/-- Above the offset of an operation, the operation behind it is the nearest. -/
theorem isSuccessor_iff (hi : body[i]? = some o) :
    body.IsSuccessor p o.offset ↔ body[i + 1]? = some p := by
  constructor
  · rintro ⟨hmem, hlt, hleast⟩
    obtain ⟨j, hj⟩ := List.mem_iff_getElem?.1 hmem
    have hij : i < j := (hb.offset_lt_iff hi hj).1 hlt
    have hbetween : ¬i + 1 < j := by
      intro hnext
      obtain ⟨q, hq⟩ : ∃ q, body[i + 1]? = some q :=
        ⟨_, List.getElem?_eq_getElem (Nat.lt_trans hnext (List.getElem?_eq_some_iff.1 hj).1)⟩
      have hle := hleast q (List.mem_of_getElem? hq) (hb.offset_lt hi hq i.lt_succ_self)
      exact absurd ((hb.offset_le_iff hj hq).1 hle) (by omega)
    obtain rfl : j = i + 1 := by omega
    exact hj
  · intro hnext
    refine ⟨List.mem_of_getElem? hnext, hb.offset_lt hi hnext i.lt_succ_self, fun q hq hlt => ?_⟩
    obtain ⟨k, hk⟩ := List.mem_iff_getElem?.1 hq
    exact (hb.offset_le_iff hnext hk).2 ((hb.offset_lt_iff hi hk).1 hlt)

end Ordered

/-- A body that ends in range ends where its code size says. -/
theorem codeSizeOf_of_codeEnd? {body : Body} {e : Offset} (he : body.codeEnd? = some e) :
    MethodDefinition.codeSizeOf body = e := by
  rw [codeEnd?] at he
  rw [MethodDefinition.codeSizeOf]
  cases hlast : body.getLast? with
  | none => simpa [hlast] using he
  | some last =>
    rw [hlast] at he
    simp only [he, Option.getD_some]

end Body

/-! ### The index -/

namespace BodyIndex

/-- The answers of an index are those of the order of the body. -/
structure Follows (index : BodyIndex) (body : Body) : Prop where
  /-- The position of an offset is that of the operation at it. -/
  position : ∀ offset i, index.position? offset = some i ↔ body.HasOffset i offset
  /-- In front of an operation stands the one with the greatest smaller offset, and where no
  operation stands there is none in front. -/
  predecessor : ∀ offset p, index.predecessor? offset = some p ↔
    (∃ o ∈ body, o.offset = offset) ∧ body.IsPredecessor p offset
  /-- Behind an operation stands the one with the least greater offset, and where no operation
  stands there is none behind. -/
  successor : ∀ offset p, index.successor? offset = some p ↔
    (∃ o ∈ body, o.offset = offset) ∧ body.IsSuccessor p offset
  /-- An operation stands behind another exactly if that one stands in front of it. -/
  inverse : ∀ p ∈ body, ∀ q ∈ body,
    index.successor? p.offset = some q ↔ index.predecessor? q.offset = some p

/-- All answers about one offset: the position in the index, where a target leads, the goal of a
target that is moved, and whether halving finds the offset. -/
inductive Concurs (index : BodyIndex) (body : Body) (offset : Offset) : Prop
  /-- An operation stands there. -/
  | operation {i : ℕ} (hstands : body.HasOffset i offset) (hindex : index.position? offset = some i)
      (hdestination : body.destination offset = .position i)
      (hgoal : Relocation.goal? ⟨index, MethodDefinition.codeSizeOf body⟩ offset =
        some (.group offset))
      (hhalving : Body.standsAt body.toArray offset = true)
  /-- The body ends there. -/
  | codeEnd (hends : body.codeEnd? = some offset) (hindex : index.position? offset = none)
      (hdestination : body.destination offset = .codeEnd)
      (hgoal : Relocation.goal? ⟨index, MethodDefinition.codeSizeOf body⟩ offset = some .codeEnd)
      (hhalving : Body.standsAt body.toArray offset = false)
  /-- Neither. -/
  | nowhere (hstands : ∀ o ∈ body, o.offset ≠ offset) (hends : body.codeEnd? ≠ some offset)
      (hindex : index.position? offset = none)
      (hdestination : body.destination offset = .nowhere offset)
      (hgoal : Relocation.goal? ⟨index, MethodDefinition.codeSizeOf body⟩ offset = none)
      (hhalving : Body.standsAt body.toArray offset = false)

variable {body : Body} {index : BodyIndex} {offset : Offset} {p : Operation}

theorem ofBody_eq_ok_iff :
    ofBody body = .ok index ↔ body.Ordered ∧ index = ⟨body.toArray, body.positions⟩ := by
  rw [ofBody, ← Body.checkOrder_eq_ok_iff]
  cases Body.checkOrder body with
  | error m => simp [Except.map]
  | ok u => simp [Except.map, eq_comm]

section Ordered

variable (hb : body.Ordered)
include hb

theorem position?_eq_some_iff {i : ℕ} :
    position? ⟨body.toArray, body.positions⟩ offset = some i ↔ body.HasOffset i offset :=
  hb.positions_eq_some_iff

theorem predecessor?_eq_some_iff :
    predecessor? ⟨body.toArray, body.positions⟩ offset = some p ↔
      (∃ o ∈ body, o.offset = offset) ∧ body.IsPredecessor p offset := by
  rw [predecessor?, Option.bind_eq_some_iff]
  constructor
  · rintro ⟨i, hi, hp⟩
    obtain ⟨o, ho, rfl⟩ := (position?_eq_some_iff hb).1 hi
    split_ifs at hp with hzero
    rw [List.getElem?_toArray] at hp
    exact ⟨⟨o, List.mem_of_getElem? ho, rfl⟩,
      (hb.isPredecessor_iff ho).2 ⟨i - 1, Nat.succ_pred hzero, hp⟩⟩
  · rintro ⟨⟨o, hmem, rfl⟩, hp⟩
    obtain ⟨i, ho⟩ := List.mem_iff_getElem?.1 hmem
    obtain ⟨j, rfl, hj⟩ := (hb.isPredecessor_iff ho).1 hp
    exact ⟨j + 1, (position?_eq_some_iff hb).2 ⟨o, ho, rfl⟩, by simpa using hj⟩

theorem successor?_eq_some_iff :
    successor? ⟨body.toArray, body.positions⟩ offset = some p ↔
      (∃ o ∈ body, o.offset = offset) ∧ body.IsSuccessor p offset := by
  rw [successor?, Option.bind_eq_some_iff]
  constructor
  · rintro ⟨i, hi, hp⟩
    obtain ⟨o, ho, rfl⟩ := (position?_eq_some_iff hb).1 hi
    rw [List.getElem?_toArray] at hp
    exact ⟨⟨o, List.mem_of_getElem? ho, rfl⟩, (hb.isSuccessor_iff ho).2 hp⟩
  · rintro ⟨⟨o, hmem, rfl⟩, hp⟩
    obtain ⟨i, ho⟩ := List.mem_iff_getElem?.1 hmem
    refine ⟨i, (position?_eq_some_iff hb).2 ⟨o, ho, rfl⟩, ?_⟩
    rw [List.getElem?_toArray]
    exact (hb.isSuccessor_iff ho).1 hp

theorem follows_ofOrdered : Follows ⟨body.toArray, body.positions⟩ body where
  position _ _ := position?_eq_some_iff hb
  predecessor _ _ := predecessor?_eq_some_iff hb
  successor _ _ := successor?_eq_some_iff hb
  inverse p hp q hq := by
    obtain ⟨i, hi⟩ := List.mem_iff_getElem?.1 hp
    obtain ⟨j, hj⟩ := List.mem_iff_getElem?.1 hq
    rw [successor?_eq_some_iff hb, predecessor?_eq_some_iff hb, hb.isSuccessor_iff hi,
      hb.isPredecessor_iff hj]
    have hnext : body[i + 1]? = some q ↔ i + 1 = j :=
      ⟨fun h => hb.offset_inj h hj rfl, fun h => h ▸ hj⟩
    have hprevious : (∃ k, k + 1 = j ∧ body[k]? = some p) ↔ i + 1 = j :=
      ⟨fun ⟨k, hk, hp⟩ => hb.offset_inj hp hi rfl ▸ hk, fun h => ⟨i, h, hi⟩⟩
    rw [hnext, hprevious]
    exact and_congr_left fun _ => iff_of_true ⟨p, hp, rfl⟩ ⟨q, hq, rfl⟩

/-- What all answers about an offset depend on is whether an operation stands there and, if not,
whether the body ends there. -/
theorem concurs_ofOrdered {e : Offset} (he : body.codeEnd? = some e) (offset : Offset) :
    Concurs ⟨body.toArray, body.positions⟩ body offset := by
  have hsize := Body.codeSizeOf_of_codeEnd? he
  by_cases hstands : ∃ o ∈ body, o.offset = offset
  · obtain ⟨o, hmem, rfl⟩ := hstands
    obtain ⟨i, ho⟩ := List.mem_iff_getElem?.1 hmem
    have hi : body.HasOffset i o.offset := ⟨o, ho, rfl⟩
    have hindex := (position?_eq_some_iff hb).2 hi
    refine .operation hi hindex (hb.destination_eq_position_iff.2 hi) ?_
      (hb.standsAt_iff.2 ⟨o, hmem, rfl⟩)
    rw [Relocation.goal?, contains, hindex]
    rfl
  · have hhalving : Body.standsAt body.toArray offset = false := by
      rw [← Bool.not_eq_true, hb.standsAt_iff]
      exact hstands
    push Not at hstands
    have hindex : position? ⟨body.toArray, body.positions⟩ offset = none :=
      Body.Ordered.positions_eq_none hstands
    have hgoal : Relocation.goal? ⟨⟨body.toArray, body.positions⟩,
        MethodDefinition.codeSizeOf body⟩ offset = if offset = e then some .codeEnd else none := by
      rw [Relocation.goal?, contains, hindex, hsize]
      rfl
    by_cases hends : offset = e
    · subst hends
      exact .codeEnd he hindex (hb.destination_of_codeEnd? he) (by rw [hgoal, if_pos rfl]) hhalving
    · have hne : ¬some offset = body.codeEnd? := by
        rw [he, Option.some.injEq]
        exact hends
      refine .nowhere hstands (Ne.symm hne) hindex ?_ (by rw [hgoal, if_neg hends]) hhalving
      rw [Body.destination_of_forall_ne hstands, if_neg hne]

end Ordered

/-- There is an index of a body exactly if its offsets strictly increase; it follows the order of
the body; and if the body ends in range, every other answer about an offset concurs with it. -/
theorem ofBody_lookups (body : Body) : ((∃ index, ofBody body = .ok index) ↔ body.Ordered) ∧
    ∀ index, ofBody body = .ok index → index.Follows body ∧
      (body.codeEnd?.isSome → ∀ offset, index.Concurs body offset) := by
  refine ⟨?_, fun index hindex => ?_⟩
  · simp only [ofBody_eq_ok_iff, exists_and_left, exists_eq, and_true]
  · obtain ⟨hb, rfl⟩ := ofBody_eq_ok_iff.1 hindex
    refine ⟨follows_ofOrdered hb, fun hends => ?_⟩
    obtain ⟨e, he⟩ := Option.isSome_iff_exists.1 hends
    exact concurs_ofOrdered hb he

/-- A loop of two operations, which ends at 14: nothing stands at most offsets. -/
theorem ofBody_lookups_sampleLoad :
    (Body.sampleLoad 9).Ordered ∧ (Body.sampleLoad 9).codeEnd? = some 14 ∧
    ∃ index, ofBody (Body.sampleLoad 9) = .ok index ∧ index.Follows (Body.sampleLoad 9) ∧
      ∀ offset, index.Concurs (Body.sampleLoad 9) offset := by
  have hordered : (Body.sampleLoad 9).Ordered := Body.moved_sampleLoad.old_proper.ordered
  obtain ⟨hexists, hindex⟩ := ofBody_lookups (Body.sampleLoad 9)
  obtain ⟨index, hok⟩ := hexists.2 hordered
  obtain ⟨hfollows, hconcurs⟩ := hindex index hok
  exact ⟨hordered, rfl, index, hok, hfollows, hconcurs rfl⟩

end BodyIndex

end BuildDrift
