import BuildDrift.Proofs.Code.Labels
import BuildDrift.Proofs.Instrumentation.Placement

/-!
# Groups tile whatever is emitted

A body is emitted step by step: groups are opened, given operations are kept, and operations are
inserted, in any order. The start of a group is fixed when it is opened, but its end only when the
next one is opened, or at the end of the body. As long as no group is opened twice and none is left
empty, the groups are consecutive runs of operations that leave out only what stands in front of the
first opening.

Completing the body fails only if a kept operation has a target that stands in the given body and
whose group was never opened. Otherwise such targets become the starts of groups.

## Main definitions

* `DraftStep`: a step of emitting a body; `DraftStep.piece` is the piece that it adds.
* `Group.Cover`: groups that tile a list of offsets.
* `DraftStep.Tiled`: what the groups of a layout have to do with the steps.
* `DraftStep.Resolved`: what becomes of every operation when the body is completed.

## Main results

* `Group.Cover.existsUnique_holds`: a covered offset is in exactly one group.
* `DraftStep.draft_eq`: steps are a prologue and tiles.
* `DraftStep.tiled_layout`: the groups tile the operations.
* `DraftStep.build_layout`, `DraftStep.build_layout_eq_error`: the body, or the first target without
  a group.
* `DraftStep.groups_tile`: all of this, for steps in any order.
-/

namespace BuildDrift

open Instruction

/-! ### Where operations of a draft stand -/

theorem Offset.capped_le_capped {m n : ℕ} (h : m ≤ n) : capped m ≤ capped n := by
  rw [UInt32.le_iff_toNat_le, toNat_capped, toNat_capped]
  omega

theorem Offset.advance?_capped {m n : ℕ} (h : m + n < UInt32.size) :
    (capped m).advance? n = some (capped (m + n)) := by
  have hm : (capped m).toNat = m := toNat_capped_of_lt (by omega)
  have hsum : UInt32.ofNat (m + n) = capped (m + n) := by
    rw [← UInt32.toNat_inj, UInt32.toNat_ofNat_of_lt' h, toNat_capped_of_lt h]
  rw [advance?, hm, if_pos h, hsum]

namespace Emitted

/-- The offsets of operations of a draft that are laid out from a place on. -/
def places : ℕ → List Emitted → List Offset
  | _, [] => []
  | place, e :: es => .capped place :: places (place + e.size) es

theorem places_append (place : ℕ) (l₁ l₂ : List Emitted) :
    places place (l₁ ++ l₂) = places place l₁ ++ places (place + weight l₁) l₂ := by
  induction l₁ generalizing place with
  | nil => rfl
  | cons e l₁ ih => simp [places, ih, Nat.add_assoc]

@[simp] theorem length_places (place : ℕ) (es : List Emitted) :
    (places place es).length = es.length := by
  induction es generalizing place with
  | nil => rfl
  | cons e es ih => rw [places, List.length_cons, List.length_cons, ih]

/-- The offsets of a packed body do not depend on where goals lead. -/
theorem map_offset_packed (target : Goal → Offset) (place : ℕ) (es : List Emitted) :
    (Body.packed place (es.map (settled target))).map Operation.offset = places place es := by
  induction es generalizing place with
  | nil => rfl
  | cons e es ih =>
    rw [List.map_cons, Body.packed, List.map_cons, ih, size_settled, places]

/-- The operation behind some others stands at their weight. -/
theorem getElem?_places_append (place : ℕ) (front : List Emitted) (e : Emitted)
    (back : List Emitted) :
    (places place (front ++ e :: back))[front.length]? = some (.capped (place + weight front)) := by
  rw [places_append, List.getElem?_append_right (by simp), length_places, Nat.sub_self, places,
    List.getElem?_cons_zero]

theorem getLast?_places {es : List Emitted} (hes : es ≠ []) (place : ℕ) :
    (places place es).getLast? = some (.capped (place + weight es.dropLast)) := by
  obtain ⟨front, e, rfl⟩ := (List.eq_nil_or_concat es).resolve_left hes
  rw [List.concat_eq_append, List.dropLast_concat, places_append, places, places,
    List.getLast?_concat]

theorem pairwise_places {place : ℕ} {es : List Emitted} (h : place + weight es < UInt32.size) :
    (places place es).Pairwise (· < ·) := by
  rw [← weight_map_settled fun _ => 0] at h
  rw [← map_offset_packed fun _ => 0, List.pairwise_map]
  exact Body.ordered_packed h

end Emitted

/-! ### Groups that cover offsets -/

namespace Group

/-- The operation at an offset is in the group. -/
def Holds (g : Group) (x : Offset) : Prop :=
  g.first ≤ x ∧ x ≤ g.last

/-- Groups cover offsets: the offsets are consecutive runs, one for each group, in order, and each
group reaches from the first offset of its run to the last one. -/
inductive Cover : List Group → List Offset → Prop
  | nil : Cover [] []
  | cons {g : Group} {gs : List Group} {run rest : List Offset} (first : run.head? = some g.first)
      (last : run.getLast? = some g.last) (h : Cover gs rest) : Cover (g :: gs) (run ++ rest)

namespace Cover

variable {gs : List Group} {xs : List Offset}

theorem first_mem (h : Cover gs xs) {g : Group} (hg : g ∈ gs) : g.first ∈ xs := by
  induction h with
  | nil => exact absurd hg List.not_mem_nil
  | cons first last h ih =>
    rcases List.mem_cons.1 hg with rfl | hg
    · exact List.mem_append_left _ (List.mem_of_head? first)
    · exact List.mem_append_right _ (ih hg)

/-- An offset in front of all that is covered is in no group. -/
theorem not_holds (h : Cover gs xs) {x : Offset} (hx : ∀ y ∈ xs, x < y) {g : Group}
    (hg : g ∈ gs) : ¬g.Holds x :=
  fun hholds => absurd hholds.1 (UInt32.not_le.2 (hx _ (h.first_mem hg)))

/-- A group holds the offsets of its run. -/
private theorem holds_of_mem_run {run : List Offset} {g : Group} (hrun : run.Pairwise (· < ·))
    (first : run.head? = some g.first) (last : run.getLast? = some g.last) {x : Offset}
    (hx : x ∈ run) : g.Holds x := by
  constructor
  · obtain ⟨tail, rfl⟩ := List.head?_eq_some_iff.1 first
    rcases List.mem_cons.1 hx with rfl | hx
    · exact UInt32.le_refl _
    · exact UInt32.le_of_lt ((List.pairwise_cons.1 hrun).1 x hx)
  · obtain ⟨front, rfl⟩ := List.getLast?_eq_some_iff.1 last
    rcases List.mem_append.1 hx with hx | hx
    · exact UInt32.le_of_lt ((List.pairwise_append.1 hrun).2.2 x hx _ List.mem_cons_self)
    · exact List.mem_singleton.1 hx ▸ UInt32.le_refl _

/-- Of increasing offsets that are covered, each is in exactly one group. -/
theorem existsUnique_holds (h : Cover gs xs) (hxs : xs.Pairwise (· < ·)) {x : Offset}
    (hx : x ∈ xs) : ∃! g, g ∈ gs ∧ g.Holds x := by
  induction h with
  | nil => exact absurd hx List.not_mem_nil
  | @cons g gs run rest first last h ih =>
    obtain ⟨hrun, hrest, hacross⟩ := List.pairwise_append.1 hxs
    rcases List.mem_append.1 hx with hx | hx
    · refine ⟨g, ⟨List.mem_cons_self, holds_of_mem_run hrun first last hx⟩, ?_⟩
      rintro g' ⟨hg', hholds⟩
      refine (List.mem_cons.1 hg').resolve_right fun hmem => ?_
      exact h.not_holds (fun y hy => hacross x hx y hy) hmem hholds
    · obtain ⟨g', ⟨hmem, hholds⟩, hunique⟩ := ih hrest hx
      refine ⟨g', ⟨List.mem_cons_of_mem g hmem, hholds⟩, ?_⟩
      rintro k ⟨hk, hkx⟩
      refine hunique k ⟨(List.mem_cons.1 hk).resolve_left ?_, hkx⟩
      -- The last offset of the first run is in front of `x`.
      rintro rfl
      have hlast := hacross _ (List.mem_of_getLast? last) x hx
      exact absurd hkx.2 (UInt32.not_le.2 hlast)

end Cover

end Group

/-- The groups of tiles cover the operations of the tiles. -/
theorem Tile.cover_groups (place : ℕ) {tiles : List Tile} (hne : ∀ t ∈ tiles, t.emitted ≠ []) :
    Group.Cover (groups place tiles) (Emitted.places place (tiles.flatMap emitted)) := by
  induction tiles generalizing place with
  | nil => exact .nil
  | cons t tiles ih =>
    obtain ⟨ht, htiles⟩ := List.forall_mem_cons.1 hne
    rw [groups, List.flatMap_cons, Emitted.places_append]
    refine .cons ?_ (Emitted.getLast?_places ht place) (ih _ htiles)
    obtain ⟨e, es, hes⟩ := List.exists_cons_of_ne_nil ht
    rw [hes]
    rfl

/-- The offsets of the operations that are laid out, in order. -/
def Layout.offsets (l : Layout) : List Offset :=
  l.body.appended.toList.map Operation.offset

/-! ### Steps -/

/-- A step of emitting a body. -/
inductive DraftStep where
  /-- The group of the given operation at an offset is opened. -/
  | openGroup (origin : Offset)
  /-- A given operation is kept; its target is relocated. -/
  | original (r : Relocation) (o : Operation)
  /-- A call is inserted. -/
  | call (m : MethodRef)
  /-- A load of a local variable is inserted. -/
  | loadLocal (slot : UInt16)
  /-- A store into a local variable is inserted. -/
  | storeLocal (slot : UInt16)
  /-- A load of a string is inserted. -/
  | loadString (s : String)
  /-- Boxing a value is inserted. -/
  | box (type : TypeRef)

namespace DraftStep

/-- The piece that a step adds. -/
def piece : DraftStep → Piece
  | openGroup origin => .opening origin
  | original r o => r.keep o
  | call m => .call m
  | loadLocal slot => .loadLocal slot
  | storeLocal slot => .storeLocal slot
  | loadString s => .loadString s
  | box type => .fixed .box (.type type)

/-- The given operation whose group is opened. -/
def origin? : DraftStep → Option Offset
  | openGroup origin => some origin
  | _ => none

/-- The instruction that is inserted. -/
def inserted? : DraftStep → Option Instruction
  | openGroup _ | original .. => none
  | call m => some (.call m)
  | loadLocal slot => some (.loadLocal slot)
  | storeLocal slot => some (.storeLocal slot)
  | loadString s => some (.loadString s)
  | box type => some (.box, .type type)

/-- The operation that is emitted. -/
def emitted? : DraftStep → Option Emitted
  | original r o => some ⟨o.instruction, o.target?.bind r.goal?⟩
  | s => s.inserted?.map Emitted.plain

/-- The bytes that a step takes up. -/
def size : DraftStep → ℕ
  | openGroup _ => 0
  | original _ o => o.size
  | s => (s.inserted?.map Instruction.size).getD 0

/-- Whether an operation is emitted. -/
def isOperation (s : DraftStep) : Bool :=
  s.emitted?.isSome

/-- An operation is kept whose target stands in the given body, so that it seeks the group of that
target. -/
def Seeks (s : DraftStep) (target : Offset) : Prop :=
  ∃ r o, s = original r o ∧ o.target? = some target ∧ r.index.contains target = true

/-- Every opening is directly followed by an operation. -/
def filled : List DraftStep → Bool
  | [] => true
  | s :: steps => (s.isOperation || steps.head?.any isOperation) && filled steps

theorem piece_of_emitted? {s : DraftStep} {e : Emitted} (h : s.emitted? = some e) :
    s.piece = e.piece := by
  cases s with
  | openGroup origin => cases h
  | original r o =>
    cases h
    exact (r.piece_emitted o).symm
  | _ =>
    cases h
    rfl

theorem size_of_emitted? {s : DraftStep} {e : Emitted} (h : s.emitted? = some e) :
    s.size = e.size := by
  cases s with
  | openGroup origin => cases h
  | original r o =>
    cases h
    exact (r.size_emitted o).symm
  | _ =>
    cases h
    rfl

/-- A step opens a group or emits an operation. -/
theorem openGroup_or_emitted (s : DraftStep) :
    (∃ origin, s = openGroup origin) ∨ s.origin? = none ∧ ∃ e, s.emitted? = some e := by
  cases s with
  | openGroup origin => exact .inl ⟨origin, rfl⟩
  | _ => exact .inr ⟨rfl, _, rfl⟩

/-! ### Steps as a prologue and tiles -/

/-- The operations in front of the first opening. -/
def prologue : List DraftStep → List Emitted
  | [] => []
  | s :: steps => s.emitted?.elim [] fun e => e :: prologue steps

/-- The tiles that are opened. -/
def tiles : List DraftStep → List Tile
  | [] => []
  | s :: steps => (s.origin?.map fun origin => ⟨origin, prologue steps⟩).toList ++ tiles steps

variable {steps : List DraftStep}

theorem prologue_append_openGroup (front : List DraftStep) (origin : Offset)
    (back : List DraftStep) : prologue (front ++ openGroup origin :: back) = prologue front := by
  induction front with
  | nil => rfl
  | cons s front ih => rw [List.cons_append, prologue, prologue, ih]

theorem tiles_append_openGroup (front : List DraftStep) (origin : Offset)
    (back : List DraftStep) :
    tiles (front ++ openGroup origin :: back) =
      tiles front ++ ⟨origin, prologue back⟩ :: tiles back := by
  induction front with
  | nil => rfl
  | cons s front ih =>
    rw [List.cons_append, tiles, ih, tiles, prologue_append_openGroup, List.append_assoc]

/-- Operations that follow one another are all in front of the next opening. -/
theorem prologue_append {run : List DraftStep} (hrun : ∀ s ∈ run, s.isOperation)
    (back : List DraftStep) : prologue (run ++ back) = run.filterMap emitted? ++ prologue back := by
  induction run with
  | nil => rfl
  | cons s run ih =>
    obtain ⟨hs, hrun⟩ := List.forall_mem_cons.1 hrun
    obtain ⟨e, he⟩ := Option.isSome_iff_exists.1 hs
    rw [List.cons_append, prologue, he, Option.elim_some, ih hrun, List.filterMap_cons_some he,
      List.cons_append]

theorem length_prologue (steps : List DraftStep) :
    (prologue steps).length = (steps.takeWhile isOperation).length := by
  induction steps with
  | nil => rfl
  | cons s steps ih =>
    rw [prologue, List.takeWhile_cons, isOperation]
    cases s.emitted? with
    | none => rfl
    | some e => exact congrArg (· + 1) ih

/-- The pieces of steps are a draft. -/
theorem draft_eq (steps : List DraftStep) :
    Tile.draft (prologue steps) (tiles steps) = steps.map piece := by
  induction steps with
  | nil => rfl
  | cons s steps ih =>
    rcases s.openGroup_or_emitted with ⟨origin, rfl⟩ | ⟨horigin, e, he⟩
    · rw [List.map_cons, ← ih]
      rfl
    · rw [List.map_cons, ← ih, prologue, tiles, he, horigin, piece_of_emitted? he]
      rfl

theorem code_eq (steps : List DraftStep) :
    Tile.code (prologue steps) (tiles steps) = steps.filterMap emitted? := by
  induction steps with
  | nil => rfl
  | cons s steps ih =>
    rcases s.openGroup_or_emitted with ⟨origin, rfl⟩ | ⟨horigin, e, he⟩
    · rw [List.filterMap_cons, ← ih]
      rfl
    · rw [List.filterMap_cons_some he, ← ih, prologue, tiles, he, horigin]
      rfl

theorem map_origin_tiles (steps : List DraftStep) :
    (tiles steps).map Tile.origin = steps.filterMap origin? := by
  induction steps with
  | nil => rfl
  | cons s steps ih =>
    rw [tiles, List.map_append, ih, List.filterMap_cons]
    cases s.origin? <;> rfl

theorem emitted_ne_nil (h : filled steps) : ∀ t ∈ tiles steps, t.emitted ≠ [] := by
  induction steps with
  | nil => exact fun t ht => absurd ht List.not_mem_nil
  | cons s steps ih =>
    rw [filled, Bool.and_eq_true] at h
    rcases s.openGroup_or_emitted with ⟨origin, rfl⟩ | ⟨horigin, e, he⟩
    · refine List.forall_mem_cons.2 ⟨?_, ih h.2⟩
      have hnext : steps.head?.any isOperation := h.1
      cases steps with
      | nil => cases hnext
      | cons next steps =>
        obtain ⟨e, he⟩ := Option.isSome_iff_exists.1 (hnext : next.isOperation)
        simp [prologue, he]
    · rw [tiles, horigin]
      exact ih h.2

/-- What follows an opening begins with an operation. -/
theorem exists_cons_of_filled {front back : List DraftStep} {origin : Offset}
    (h : filled (front ++ openGroup origin :: back)) :
    ∃ s rest, back = s :: rest ∧ s.isOperation := by
  induction front with
  | nil =>
    have hnext : back.head?.any isOperation := (Bool.and_eq_true _ _ ▸ h).1
    cases back with
    | nil => cases hnext
    | cons s rest => exact ⟨s, rest, rfl, hnext⟩
  | cons s front ih => exact ih (Bool.and_eq_true _ _ ▸ h).2

theorem weight_filterMap_emitted? (steps : List DraftStep) :
    Emitted.weight (steps.filterMap emitted?) = (steps.map size).sum := by
  induction steps with
  | nil => rfl
  | cons s steps ih =>
    rcases s.openGroup_or_emitted with ⟨origin, rfl⟩ | ⟨-, e, he⟩
    · rw [List.map_cons, List.sum_cons, ← ih, size, Nat.zero_add]
      rfl
    · rw [List.map_cons, List.sum_cons, ← ih, size_of_emitted? he, List.filterMap_cons_some he,
        Emitted.weight_cons]

theorem length_filterMap_emitted? (steps : List DraftStep) :
    (steps.filterMap emitted?).length = steps.countP isOperation :=
  List.length_filterMap_eq_countP

/-! ### What is laid out -/

/-- What the groups of a layout have to do with the steps. -/
structure Tiled (steps : List DraftStep) (l : Layout) : Prop where
  /-- Every operation has got its offset. -/
  length : l.offsets.length = steps.countP isOperation
  /-- Offsets increase. -/
  increasing : l.offsets.Pairwise (· < ·)
  /-- Groups are in the order of the openings. -/
  order : l.groups.reverse.map Group.origin = steps.filterMap origin?
  /-- Without those in front of the first opening, the operations are tiled by the groups. -/
  cover : Group.Cover l.groups.reverse (l.offsets.drop (steps.takeWhile isOperation).length)
  /-- A group reaches from the first to the last operation behind its opening, up to the next
  opening. -/
  group : ∀ front origin run back, steps = front ++ openGroup origin :: (run ++ back) →
    (∀ s ∈ run, s.isOperation) → (∀ s ∈ back.head?, ¬s.isOperation) →
    ∃ g, l.group? origin = some g ∧ l.offsets[front.countP isOperation]? = some g.first ∧
      l.offsets[front.countP isOperation + (run.length - 1)]? = some g.last
  /-- An operation in front of the first opening is in no group. -/
  outside : ∀ front s back, steps = front ++ s :: back → (∀ t ∈ front, t.isOperation) →
    s.isOperation → ∃ x, l.offsets[front.length]? = some x ∧ ∀ g ∈ l.groups, ¬g.Holds x
  /-- Any other operation is in the group that was opened last, and in no other. -/
  inside : ∀ front origin run s back, steps = front ++ openGroup origin :: (run ++ s :: back) →
    (∀ t ∈ run, t.isOperation) → s.isOperation →
    ∃ x g, l.offsets[front.countP isOperation + run.length]? = some x ∧
      l.group? origin = some g ∧ ∀ h ∈ l.groups, h.Holds x ↔ h = g

/-- The layout of steps. -/
def layout (steps : List DraftStep) : Layout :=
  .ofDraft (prologue steps) (tiles steps)

theorem groups_layout (steps : List DraftStep) : (layout steps).groups.reverse =
    Tile.groups (Emitted.weight (prologue steps)) (tiles steps) :=
  List.reverse_reverse _

theorem offsets_layout (steps : List DraftStep) :
    (layout steps).offsets = Emitted.places 0 (steps.filterMap emitted?) := by
  rw [Layout.offsets, layout, Layout.ofDraft, ← code_eq, ← Emitted.map_offset_packed fun _ => 0,
    ← Tile.lay_steps fun _ => 0]
  simp [BodyBuilder.extended, BodyBuilder.empty]

theorem offsets_layout_eq_append (steps : List DraftStep) : (layout steps).offsets =
    Emitted.places 0 (prologue steps) ++ Emitted.places (Emitted.weight (prologue steps))
      ((tiles steps).flatMap Tile.emitted) := by
  rw [offsets_layout, ← code_eq, Tile.code, Emitted.places_append, Nat.zero_add]

/-- An operation stands at the weight of the operations in front of it. -/
theorem getElem?_offsets_layout (front : List DraftStep) {s : DraftStep} (hs : s.isOperation)
    (back : List DraftStep) :
    (layout (front ++ s :: back)).offsets[front.countP isOperation]? =
      some (.capped (Emitted.weight (front.filterMap emitted?))) := by
  obtain ⟨e, he⟩ := Option.isSome_iff_exists.1 hs
  rw [offsets_layout, List.filterMap_append, List.filterMap_cons_some he,
    ← length_filterMap_emitted?, Emitted.getElem?_places_append, Nat.zero_add]

/-- An operation behind an opening, up to the next one, stands behind what is in front. -/
theorem getElem?_offsets_opened (front : List DraftStep) (origin : Offset) {run : List DraftStep}
    {s : DraftStep} (hrun : ∀ t ∈ run, t.isOperation) (hs : s.isOperation)
    (back : List DraftStep) :
    (layout (front ++ openGroup origin :: (run ++ s :: back))).offsets[
        front.countP isOperation + run.length]? =
      some (.capped (Emitted.weight (front.filterMap emitted? ++ run.filterMap emitted?))) := by
  have hcount : (front ++ openGroup origin :: run).countP isOperation =
      front.countP isOperation + run.length := by
    rw [List.countP_append, List.countP_cons_of_neg (by simp [isOperation, emitted?, inserted?]),
      List.countP_eq_length.2 hrun]
  have hget := getElem?_offsets_layout (front ++ openGroup origin :: run) hs back
  rwa [hcount, List.append_assoc, List.cons_append, List.filterMap_append] at hget

section Distinct

variable (hnew : (steps.filterMap origin?).Nodup)
include hnew

theorem ofPieces_steps (hfilled : filled steps) :
    Layout.ofPieces (steps.map piece) = .ok (layout steps) := by
  rw [← draft_eq]
  exact Layout.ofPieces_draft (map_origin_tiles steps ▸ hnew) (emitted_ne_nil hfilled)

/-- The group of an opening reaches from the next operation to the last one that follows. -/
theorem group?_layout {front back : List DraftStep} {origin : Offset}
    (hsteps : steps = front ++ openGroup origin :: back) :
    (layout steps).group? origin =
      some ⟨origin, .capped (Emitted.weight (front.filterMap emitted?)),
        .capped (Emitted.weight (front.filterMap emitted? ++ (prologue back).dropLast))⟩ := by
  have hget : (tiles steps)[(tiles front).length]? = some ⟨origin, prologue back⟩ := by
    rw [hsteps, tiles_append_openGroup, List.getElem?_append_right (Nat.le_refl _), Nat.sub_self,
      List.getElem?_cons_zero]
  have htake : Tile.code (prologue steps) ((tiles steps).take (tiles front).length) =
      front.filterMap emitted? := by
    rw [hsteps, tiles_append_openGroup, prologue_append_openGroup, List.take_left, code_eq]
  have hgroup : (Layout.ofDraft (prologue steps) (tiles steps)).group? origin = _ :=
    Layout.group?_draft (map_origin_tiles steps ▸ hnew) hget
  rwa [htake] at hgroup

end Distinct

section Tiled

variable (hfilled : filled steps)
  (hsize : Emitted.weight (steps.filterMap emitted?) < UInt32.size)

include hsize in
theorem increasing_layout : (layout steps).offsets.Pairwise (· < ·) := by
  rw [offsets_layout]
  exact Emitted.pairwise_places (by rwa [Nat.zero_add])

include hfilled in
theorem cover_layout : Group.Cover (layout steps).groups.reverse
    ((layout steps).offsets.drop (prologue steps).length) := by
  rw [groups_layout, offsets_layout_eq_append, List.drop_left' (Emitted.length_places 0 _)]
  exact Tile.cover_groups _ (emitted_ne_nil hfilled)

include hfilled in
/-- The first and the last operation of a group. -/
theorem group_layout (hnew : (steps.filterMap origin?).Nodup) {front run back : List DraftStep}
    {origin : Offset} (hsteps : steps = front ++ openGroup origin :: (run ++ back))
    (hrun : ∀ s ∈ run, s.isOperation) (hback : ∀ s ∈ back.head?, ¬s.isOperation) :
    ∃ g, (layout steps).group? origin = some g ∧
      (layout steps).offsets[front.countP isOperation]? = some g.first ∧
      (layout steps).offsets[front.countP isOperation + (run.length - 1)]? = some g.last := by
  have hend : prologue back = [] := by
    cases back with
    | nil => rfl
    | cons t back =>
      have ht : t.emitted? = none := by simpa [isOperation] using hback
      rw [prologue, ht, Option.elim_none]
  refine ⟨_, group?_layout hnew hsteps, ?_, ?_⟩
  · obtain ⟨s, rest, hrest, hs⟩ := exists_cons_of_filled (hsteps ▸ hfilled)
    have hget := getElem?_offsets_opened front origin (List.forall_mem_nil _) hs rest
    rw [hsteps, hrest]
    simpa using hget
  · rcases List.eq_nil_or_concat run with rfl | ⟨run, t, rfl⟩
    · obtain ⟨s, rest, rfl, hs⟩ := exists_cons_of_filled (hsteps ▸ hfilled)
      exact absurd hs (hback s rfl)
    · rw [List.concat_eq_append] at hsteps hrun ⊢
      obtain ⟨hrun, ht⟩ := List.forall_mem_append.1 hrun
      have ht := List.forall_mem_singleton.1 ht
      obtain ⟨e, he⟩ := Option.isSome_iff_exists.1 ht
      have hget := getElem?_offsets_opened front origin hrun ht back
      have hdrop : (prologue (run ++ [t] ++ back)).dropLast = run.filterMap emitted? := by
        rw [List.append_assoc, prologue_append hrun, List.singleton_append, prologue, he,
          Option.elim_some, hend, List.dropLast_concat]
      rw [hdrop, hsteps, List.append_assoc, List.singleton_append, List.length_append,
        List.length_singleton, Nat.add_sub_cancel]
      exact hget

include hfilled hsize in
/-- Operations in front of the first opening are in no group. -/
theorem outside_layout {front back : List DraftStep} {s : DraftStep}
    (hsteps : steps = front ++ s :: back) (hfront : ∀ t ∈ front, t.isOperation)
    (hs : s.isOperation) : ∃ x, (layout steps).offsets[front.length]? = some x ∧
      ∀ g ∈ (layout steps).groups, ¬g.Holds x := by
  obtain ⟨e, he⟩ := Option.isSome_iff_exists.1 hs
  have hprologue : prologue steps = front.filterMap emitted? ++ e :: prologue back := by
    rw [hsteps, prologue_append hfront, prologue, he, Option.elim_some]
  have hlength : (front.filterMap emitted?).length = front.length := by
    rw [length_filterMap_emitted?, List.countP_eq_length.2 hfront]
  have hget := Emitted.getElem?_places_append 0 (front.filterMap emitted?) e (prologue back)
  rw [← hprologue, hlength] at hget
  have hcover := cover_layout hfilled
  have hincreasing := increasing_layout hsize
  rw [offsets_layout_eq_append] at hincreasing hcover ⊢
  rw [List.drop_left' (Emitted.length_places 0 _)] at hcover
  have hlt : front.length < (Emitted.places 0 (prologue steps)).length :=
    (List.getElem?_eq_some_iff.1 hget).1
  refine ⟨_, (List.getElem?_append_left hlt).trans hget, fun g hg => ?_⟩
  refine hcover.not_holds (fun y hy => ?_) (List.mem_reverse.2 hg)
  exact (List.pairwise_append.1 hincreasing).2.2 _ (List.mem_of_getElem? hget) y hy

include hfilled hsize in
/-- The other operations are in the group that was opened last, and in no other. -/
theorem inside_layout (hnew : (steps.filterMap origin?).Nodup) {front run back : List DraftStep}
    {origin : Offset} {s : DraftStep}
    (hsteps : steps = front ++ openGroup origin :: (run ++ s :: back))
    (hrun : ∀ t ∈ run, t.isOperation) (hs : s.isOperation) :
    ∃ x g, (layout steps).offsets[front.countP isOperation + run.length]? = some x ∧
      (layout steps).group? origin = some g ∧
      ∀ h ∈ (layout steps).groups, h.Holds x ↔ h = g := by
  have hget := getElem?_offsets_opened front origin hrun hs back
  rw [← hsteps] at hget
  have hgroup := group?_layout hnew hsteps
  refine ⟨_, _, hget, hgroup, ?_⟩
  generalize hx : Offset.capped (Emitted.weight (front.filterMap emitted? ++
    run.filterMap emitted?)) = x at hget ⊢
  generalize hg : (⟨origin, _, _⟩ : Group) = g at hgroup ⊢
  have hmem : g ∈ (layout steps).groups.reverse :=
    List.mem_reverse.2 (List.mem_of_find?_eq_some hgroup)
  have hholds : g.Holds x := by
    obtain ⟨e, he⟩ := Option.isSome_iff_exists.1 hs
    have hdrop : (prologue (run ++ s :: back)).dropLast =
        run.filterMap emitted? ++ (e :: prologue back).dropLast := by
      rw [prologue_append hrun, prologue, he, Option.elim_some,
        List.dropLast_append_of_ne_nil (List.cons_ne_nil _ _)]
    rw [← hg, ← hx, hdrop]
    simp only [Emitted.weight_append]
    exact ⟨Offset.capped_le_capped (by omega), Offset.capped_le_capped (by omega)⟩
  -- The operations of the prologue are in front of the opening.
  have hle : (prologue steps).length ≤ front.countP isOperation := by
    rw [hsteps, prologue_append_openGroup, ← length_filterMap_emitted?, ← code_eq, Tile.code,
      List.length_append]
    omega
  have hcovered : x ∈ (layout steps).offsets.drop (prologue steps).length := by
    refine List.mem_of_getElem?
      (i := front.countP isOperation + run.length - (prologue steps).length) ?_
    rwa [List.getElem?_drop, Nat.add_sub_cancel' (by omega)]
  have hunique := (cover_layout hfilled).existsUnique_holds
    ((increasing_layout hsize).sublist (List.drop_sublist _ _)) hcovered
  intro h hh
  refine ⟨fun hhx => hunique.unique ⟨List.mem_reverse.2 hh, hhx⟩ ⟨hmem, hholds⟩, ?_⟩
  rintro rfl
  exact hholds

include hfilled hsize in
/-- Opened at different offsets, with an operation behind every opening, groups tile the
operations. -/
theorem tiled_layout (hnew : (steps.filterMap origin?).Nodup) : Tiled steps (layout steps) where
  length := by rw [offsets_layout, Emitted.length_places, length_filterMap_emitted?]
  increasing := increasing_layout hsize
  order := by rw [groups_layout, Tile.map_origin_groups, map_origin_tiles]
  cover := length_prologue steps ▸ cover_layout hfilled
  group _ _ _ _ hsteps hrun hback := group_layout hfilled hnew hsteps hrun hback
  outside _ _ _ hsteps hfront hs := outside_layout hfilled hsize hsteps hfront hs
  inside _ _ _ _ _ hsteps hrun hs := inside_layout hfilled hsize hnew hsteps hrun hs

end Tiled

/-! ### Completing the body -/

end DraftStep

/-- Steps of which none is refused may as well be steps that could be refused. -/
theorem BodyBuilder.assemble_of_run {Label : Type} [DecidableEq Label]
    {steps : List (Step Label)} {b : BodyBuilder Label} (h : empty.run steps = .ok b) :
    assemble steps = b := by
  rw [assemble]
  generalize (empty : BodyBuilder Label) = start at h ⊢
  induction steps generalizing start with
  | nil =>
    cases h
    rfl
  | cons s steps ih =>
    rw [run, List.foldlM_cons] at h
    cases hstep : start.step s with
    | error fault =>
      rw [hstep] at h
      cases h
    | ok next =>
      rw [hstep] at h
      rw [List.foldl_cons, attempt, hstep]
      exact ih next h

/-- The last operation of a packed body ends where the body does. -/
theorem Body.exists_getLast?_packed {code : List Instruction} (hne : code ≠ [])
    (hsize : weight code < UInt32.size) : ∃ last, (packed 0 code).getLast? = some last ∧
      last.endOffset? = some (.capped (weight code)) := by
  obtain ⟨front, i, rfl⟩ := (List.eq_nil_or_concat code).resolve_left hne
  rw [List.concat_eq_append, weight_append, weight_cons, weight_nil, Nat.add_zero] at hsize ⊢
  refine ⟨⟨.capped (weight front), i.1, i.2⟩, ?_, Offset.advance?_capped hsize⟩
  rw [packed_append, packed, packed, List.getLast?_concat, Nat.zero_add]

namespace DraftStep

variable {steps : List DraftStep}

/-- What becomes of the operations when the body is completed. -/
structure Resolved (steps : List DraftStep) (l : Layout) (body : Body) : Prop where
  /-- Operations stay where they have been laid out. -/
  offsets : body.map Operation.offset = l.offsets
  /-- A target that stands in the given body becomes the start of its group. -/
  group : ∀ front r o back target, steps = front ++ original r o :: back →
    o.target? = some target → r.index.contains target = true →
    ∃ g, l.group? target = some g ∧
      body[front.countP isOperation]?.map Operation.instruction = some (o.kind, .target g.first)
  /-- A target that is only the end of the given body becomes the end of the last operation. -/
  codeEnd : ∀ front r o back, steps = front ++ original r o :: back →
    o.target? = some r.codeEnd → r.index.contains r.codeEnd = false →
    ∃ last place, body.getLast? = some last ∧ last.endOffset? = some place ∧
      body[front.countP isOperation]?.map Operation.instruction = some (o.kind, .target place)
  /-- Any other target is kept, and so is an operation without a target. -/
  kept : ∀ front r o back, steps = front ++ original r o :: back →
    (∀ target, o.target? = some target →
      r.index.contains target = false ∧ target ≠ r.codeEnd) →
    body[front.countP isOperation]?.map Operation.instruction = some o.instruction
  /-- Operations that are inserted stay as they are. -/
  inserted : ∀ front s back i, steps = front ++ s :: back → s.inserted? = some i →
    body[front.countP isOperation]?.map Operation.instruction = some i

/-- Where goals lead: to the start of a group, or to the end of all operations. -/
def landing (steps : List DraftStep) : Goal → Offset
  | .group origin => (layout steps).start origin
  | .codeEnd => .capped (Emitted.weight (steps.filterMap emitted?))

/-- The operations with their goals resolved. -/
def resolved (steps : List DraftStep) : List Instruction :=
  (steps.filterMap emitted?).map (Emitted.settled (landing steps))

/-- A step that seeks a group goes to it. -/
theorem seeks_iff {s : DraftStep} {origin : Offset} :
    s.Seeks origin ↔ ∃ e, s.emitted? = some e ∧ e.goal = some (.group origin) := by
  constructor
  · rintro ⟨r, o, rfl, htarget, hcontains⟩
    refine ⟨_, rfl, ?_⟩
    rw [htarget, Option.bind_some, Relocation.goal?, if_pos hcontains]
  · rintro ⟨e, he, hgoal⟩
    cases s with
    | original r o =>
      cases he
      obtain ⟨target, htarget, hgroup⟩ := Option.bind_eq_some_iff.1 hgoal
      rw [Relocation.goal?] at hgroup
      split_ifs at hgroup with hcontains hend
      · cases hgroup
        exact ⟨r, o, rfl, htarget, hcontains⟩
      · cases hgroup
    | openGroup origin => cases he
    | _ =>
      cases he
      cases hgoal

theorem mem_goals_iff {origin : Offset} :
    .group origin ∈ (steps.filterMap emitted?).filterMap Emitted.goal ↔
      ∃ s ∈ steps, s.Seeks origin := by
  simp only [List.mem_filterMap, seeks_iff]
  constructor
  · rintro ⟨e, ⟨s, hs, he⟩, hgoal⟩
    exact ⟨s, hs, e, he, hgoal⟩
  · rintro ⟨s, hs, e, he, hgoal⟩
    exact ⟨e, ⟨s, hs, he⟩, hgoal⟩

section Build

variable (hnew : (steps.filterMap origin?).Nodup)
include hnew

/-- The body, if every target that stands in the given body has a group. -/
theorem build_layout (hopened : ∀ s ∈ steps, ∀ target, s.Seeks target →
    target ∈ steps.filterMap origin?) :
    (layout steps).build = .ok (Body.packed 0 (resolved steps)) := by
  rw [← map_origin_tiles] at hnew
  have hbuild : (Layout.ofDraft (prologue steps) (tiles steps)).build = .ok (Body.packed 0
      ((Tile.code (prologue steps) (tiles steps)).map (Emitted.settled (landing steps)))) := by
    refine Layout.build_draft hnew (fun j t hj => Layout.start_draft hnew hj)
      (by rw [code_eq]; rfl) fun origin horigin => ?_
    rw [code_eq] at horigin
    obtain ⟨s, hs, hseeks⟩ := mem_goals_iff.1 horigin
    exact map_origin_tiles steps ▸ hopened s hs origin hseeks
  rwa [code_eq] at hbuild

/-- Otherwise there is a target without a group, and the first such target is given. -/
theorem build_layout_eq_error (hmissing : ¬∀ s ∈ steps, ∀ target, s.Seeks target →
    target ∈ steps.filterMap origin?) :
    ∃ s ∈ steps, ∃ target, s.Seeks target ∧ target ∉ steps.filterMap origin? ∧
      (layout steps).build = .error (.undefined (Goal.group target).text) := by
  rw [← map_origin_tiles] at hnew
  let ended := Layout.endedSteps (prologue steps) (tiles steps)
  have hbuild : (layout steps).build = (BodyBuilder.assemble ended).build := by
    rw [Layout.build, layout, Layout.mark_codeEnd hnew,
      BodyBuilder.assemble_of_run (Layout.run_endedSteps hnew)]
    rfl
  have hgoals : ended.filterMap BodyBuilder.Step.goal? =
      ((steps.filterMap emitted?).filterMap Emitted.goal).map Goal.text := by
    rw [← code_eq, Layout.goals_endedSteps]
  have hmarked : ended.filterMap BodyBuilder.Step.marked? =
      ((steps.filterMap origin?).map Goal.group ++ [Goal.codeEnd]).map Goal.text := by
    rw [← map_origin_tiles, Layout.marked_endedSteps]
  have hsome : ¬∀ label ∈ ended.filterMap BodyBuilder.Step.goal?,
      label ∈ ended.filterMap BodyBuilder.Step.marked? := by
    rw [hgoals, hmarked]
    refine fun hall => hmissing fun s hs target hseeks => ?_
    have hmem := hall (Goal.group target).text
      (List.mem_map_of_mem (mem_goals_iff.2 ⟨s, hs, hseeks⟩))
    -- a label is marked only if its goal is
    rw [List.mem_map_of_injective Goal.text_injective] at hmem
    simpa using hmem
  obtain ⟨label, hfind⟩ := BodyBuilder.exists_missing hsome
  have herror := BodyBuilder.build_eq_error hfind
  have hlabel := List.mem_of_find?_eq_some hfind
  have hunmarked : label ∉ ended.filterMap BodyBuilder.Step.marked? :=
    of_decide_eq_true (List.find?_some hfind :)
  rw [hgoals] at hlabel
  obtain ⟨goal, hgoal, rfl⟩ := List.mem_map.1 hlabel
  rw [hmarked, List.mem_map_of_injective Goal.text_injective] at hunmarked
  cases goal with
  | codeEnd => exact absurd (List.mem_append_right _ List.mem_cons_self) hunmarked
  | group target =>
    obtain ⟨s, hs, hseeks⟩ := mem_goals_iff.1 hgoal
    refine ⟨s, hs, target, hseeks, fun hmem => ?_, hbuild.trans herror⟩
    exact hunmarked (List.mem_append_left _ (List.mem_map_of_mem hmem))

omit hnew in
/-- What is emitted for a step, with its goal resolved. -/
theorem instruction_packed_resolved {front back : List DraftStep} {s : DraftStep} {e : Emitted}
    (hsteps : steps = front ++ s :: back) (he : s.emitted? = some e) :
    (Body.packed 0 (resolved steps))[front.countP isOperation]?.map Operation.instruction =
      some (e.settled (landing steps)) := by
  subst hsteps
  rw [← List.getElem?_map, ← Body.instructions, Body.instructions_packed, resolved,
    List.getElem?_map, List.filterMap_append, List.filterMap_cons_some he,
    ← length_filterMap_emitted?, List.getElem?_append_right (Nat.le_refl _), Nat.sub_self,
    List.getElem?_cons_zero, Option.map_some]

/-- Targets become the starts of groups, or the end of the last operation, or are kept. -/
theorem resolved_packed (hsize : Emitted.weight (steps.filterMap emitted?) < UInt32.size)
    (hopened : ∀ s ∈ steps, ∀ target, s.Seeks target → target ∈ steps.filterMap origin?) :
    Resolved steps (layout steps) (Body.packed 0 (resolved steps)) where
  offsets := by rw [resolved, Emitted.map_offset_packed, offsets_layout]
  group front r o back target hsteps htarget hcontains := by
    have hmem : original r o ∈ steps := hsteps ▸ List.mem_append_right _ List.mem_cons_self
    have hopen := hopened _ hmem target ⟨r, o, rfl, htarget, hcontains⟩
    obtain ⟨s, hs, horigin⟩ := List.mem_filterMap.1 hopen
    cases s with
    | openGroup origin =>
      cases horigin
      obtain ⟨before, behind, hsplit⟩ := List.append_of_mem hs
      have hgroup := group?_layout hnew hsplit
      refine ⟨_, hgroup, ?_⟩
      rw [instruction_packed_resolved hsteps rfl, Emitted.settled, htarget, Option.bind_some,
        Relocation.goal?, if_pos hcontains]
      simp only [landing, Layout.start, hgroup]
      rfl
    | _ => cases horigin
  codeEnd front r o back hsteps htarget hcontains := by
    have hne : resolved steps ≠ [] := by
      rw [resolved, hsteps, List.filterMap_append]
      simp [emitted?]
    have hweight : weight (resolved steps) = Emitted.weight (steps.filterMap emitted?) :=
      Emitted.weight_map_settled _ _
    obtain ⟨last, hlast, hend⟩ := Body.exists_getLast?_packed hne (hweight ▸ hsize)
    refine ⟨last, _, hlast, hend, ?_⟩
    rw [instruction_packed_resolved hsteps rfl, Emitted.settled, htarget, Option.bind_some,
      Relocation.goal?, if_neg (by simp [hcontains]), if_pos rfl, hweight]
    rfl
  kept front r o back hsteps hkept := by
    have hgoal : o.target?.bind r.goal? = none := by
      refine Option.bind_eq_none_iff.2 fun target htarget => ?_
      obtain ⟨hcontains, hne⟩ := hkept target htarget
      rw [Relocation.goal?, if_neg (by simp [hcontains]), if_neg hne]
    rw [instruction_packed_resolved hsteps rfl, Emitted.settled, hgoal]
  inserted front s back i hsteps hinserted := by
    have he : s.emitted? = some (Emitted.plain i) := by
      cases s with
      | openGroup origin => cases hinserted
      | original r o => cases hinserted
      | _ => exact congrArg (Option.map Emitted.plain) hinserted
    rw [instruction_packed_resolved hsteps he]
    rfl

end Build

/-- Whatever is emitted, if groups are opened at different offsets, each with at least one
operation, and the body is not too long: the groups tile the operations. The body can be completed
unless a kept operation has a target that stands in the given body and whose group was not opened,
and targets become the starts of groups or the end of the last operation, or are kept. -/
theorem groups_tile (hnew : (steps.filterMap origin?).Nodup) (hfilled : filled steps)
    (hsize : (steps.map size).sum < UInt32.size) :
    ∃ l, Layout.ofPieces (steps.map piece) = .ok l ∧ Tiled steps l ∧
      (∀ fault, l.build = .error fault → ∃ s ∈ steps, ∃ target, s.Seeks target ∧
        target ∉ steps.filterMap origin? ∧ fault = .undefined (Goal.group target).text) ∧
      ((∃ body, l.build = .ok body) ↔
        ∀ s ∈ steps, ∀ target, s.Seeks target → target ∈ steps.filterMap origin?) ∧
      ∀ body, l.build = .ok body → Resolved steps l body := by
  rw [← weight_filterMap_emitted?] at hsize
  refine ⟨layout steps, ofPieces_steps hnew hfilled, tiled_layout hfilled hsize hnew, ?_⟩
  by_cases hopened : ∀ s ∈ steps, ∀ target, s.Seeks target → target ∈ steps.filterMap origin?
  · have hbuild := build_layout hnew hopened
    refine ⟨fun fault hfault => ?_, ⟨fun _ => hopened, fun _ => ⟨_, hbuild⟩⟩, fun body hbody => ?_⟩
    · rw [hbuild] at hfault
      cases hfault
    · obtain rfl := Except.ok.inj (hbuild.symm.trans hbody)
      exact resolved_packed hnew hsize hopened
  · obtain ⟨s, hs, target, hseeks, hnone, herror⟩ := build_layout_eq_error hnew hopened
    refine ⟨fun fault hfault => ?_, ⟨?_, fun h => absurd h hopened⟩, fun body hbody => ?_⟩
    · obtain rfl := Except.error.inj (herror.symm.trans hfault)
      exact ⟨s, hs, target, hseeks, hnone, rfl⟩
    · rintro ⟨body, hbody⟩
      exact nomatch herror.symm.trans hbody
    · exact nomatch herror.symm.trans hbody

/-- A body with a target inside, a target at its end, and a target that is nothing in it. -/
def sampleBody : Body :=
  [⟨0, .other 0x39, .target 10⟩, ⟨5, .leave, .target 15⟩, ⟨10, .branch 0x38, .target 4⟩]

theorem ordered_sampleBody : sampleBody.Ordered := by
  rw [Body.Ordered, sampleBody]
  decide

/-- Its operations are kept, with a call in front of all groups, one at the end of the first group,
and one at the start of the last. -/
def sampleSteps : List DraftStep :=
  let r : Relocation := ⟨⟨sampleBody.toArray, sampleBody.positions⟩, 15⟩
  let mark : DraftStep := .call ⟨⟨"T", "Log", false⟩, "Mark", [], none, false⟩
  [mark, openGroup 0, original r ⟨0, .other 0x39, .target 10⟩, mark,
    openGroup 5, original r ⟨5, .leave, .target 15⟩,
    openGroup 10, mark, original r ⟨10, .branch 0x38, .target 4⟩]

/-- The groups of all operations of the sample are opened. -/
theorem opened_sampleSteps : ∀ s ∈ sampleSteps, ∀ target, s.Seeks target →
    target ∈ sampleSteps.filterMap origin? := by
  rintro _ hs target ⟨r, o, rfl, -, hcontains⟩
  have hr : r = ⟨⟨sampleBody.toArray, sampleBody.positions⟩, 15⟩ := by
    simp only [sampleSteps, List.mem_cons, reduceCtorEq, original.injEq, List.not_mem_nil] at hs
    tauto
  rw [hr, BodyIndex.contains_ofBody_iff ordered_sampleBody rfl] at hcontains
  obtain ⟨p, hp, rfl⟩ := hcontains
  revert p
  decide

theorem groups_tile_sample : (sampleSteps.filterMap origin?).Nodup ∧ filled sampleSteps ∧
    (sampleSteps.map size).sum < UInt32.size ∧
    ∃ l, Layout.ofPieces (sampleSteps.map piece) = .ok l ∧ Tiled sampleSteps l ∧
      ∃ body, l.build = .ok body ∧ Resolved sampleSteps l body := by
  have hnew : (sampleSteps.filterMap origin?).Nodup := by decide
  have hfilled : filled sampleSteps := by decide
  have hsize : (sampleSteps.map size).sum < UInt32.size := by decide
  obtain ⟨l, hl, htiled, -, hbuild, hresolved⟩ := groups_tile hnew hfilled hsize
  obtain ⟨body, hbody⟩ := hbuild.2 opened_sampleSteps
  exact ⟨hnew, hfilled, hsize, l, hl, htiled, body, hbody, hresolved body hbody⟩

end DraftStep

end BuildDrift
