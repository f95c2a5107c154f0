import BuildDrift.Instrumentation.Layout
import BuildDrift.Proofs.Code.Packed
import BuildDrift.Proofs.Text.Hex
import Mathlib.Data.List.Nodup

/-!
# Groups tile a drafted body

A drafted body is a prologue followed by tiles: each tile opens the group of a given operation and
holds the operations up to the next opening. When no group is opened twice and every goal is the
group of a tile or the end, laying out the draft packs the operations of the prologue and of the
tiles one behind the other. Groups and tiles correspond: a group reaches from the first operation
of its tile to the last one, and a goal becomes the offset of the first operation.

The body is built with texts as labels. Goals are told apart by their labels, so no two groups get
one label, none of them has the label of the end, and where a label leads is decided by its goal.

## Main definitions

* `Emitted`: an operation of a draft, with the goal that decides its target.
* `Tile`: the group of a given operation; `Tile.draft` puts tiles behind a prologue.
* `Tile.groups`: the groups of tiles that are laid out from a place on.

## Main results

* `Goal.text_injective`: goals are told apart by their labels.
* `Layout.ofPieces_draft`, `Layout.build_draft`: a draft laid out.
* `Layout.start_draft`, `Layout.stop_draft`: where a bound of a range moves.
-/

namespace BuildDrift

open Instruction

/-! ### Labels of goals -/

/-- Offsets are told apart by how they are written. -/
theorem Offset.label_injective : Function.Injective Offset.label := by
  intro o p h
  have hdigits : (Hex.padded 4 o.toNat).toList = (Hex.padded 4 p.toNat).toList := by
    simpa [label] using congrArg String.toList h
  have hread := Hex.read?_padded 4 o.toNat
  rw [hdigits, Hex.read?_padded] at hread
  exact UInt32.toNat_inj.1 (Option.some.inj hread).symm

namespace Goal

/-- Goals are told apart by their labels. -/
theorem text_injective : Function.Injective text := by
  have hend (origin : Offset) : (group origin).text ≠ codeEnd.text := by
    intro h
    have hchars := congrArg String.toList h
    simp [text, Offset.label] at hchars
  intro g h heq
  cases g with
  | codeEnd =>
    cases h with
    | codeEnd => rfl
    | group origin => exact absurd heq.symm (hend origin)
  | group o =>
    cases h with
    | codeEnd => exact absurd heq (hend o)
    | group p => exact congrArg group (Offset.label_injective heq)

/-- Where labels lead when goals have these targets. A text that is no label of a goal leads to the
start of the body. -/
noncomputable def leading (target : Goal → Offset) : String → Offset :=
  Function.extend text target fun _ => 0

@[simp] theorem leading_text (target : Goal → Offset) (goal : Goal) :
    leading target goal.text = target goal :=
  text_injective.extend_apply target _ goal

end Goal

/-! ### Operations of a draft -/

/-- An operation of a draft. If it goes to a goal, its operand is decided by the layout. -/
structure Emitted where
  /-- What it does and on what it acts. -/
  instruction : Instruction
  /-- Where it goes. -/
  goal : Option Goal := none

namespace Emitted

/-- The piece of the draft. -/
def piece (e : Emitted) : Piece :=
  match e.goal with
  | none => .fixed e.instruction.1 e.instruction.2
  | some goal => .jump e.instruction.1 goal

/-- The instruction, when goals have these targets. -/
def settled (target : Goal → Offset) (e : Emitted) : Instruction :=
  match e.goal with
  | none => e.instruction
  | some goal => (e.instruction.1, .target (target goal))

/-- The bytes that the operation takes up. -/
def size (e : Emitted) : ℕ :=
  (e.settled fun _ => 0).size

/-- The bytes that operations of a draft take up together. -/
def weight (es : List Emitted) : ℕ :=
  (es.map size).sum

theorem isOperation_piece (e : Emitted) : e.piece.isOperation = true := by
  rcases e with ⟨i, _ | goal⟩ <;> rfl

theorem size_settled (target : Goal → Offset) (e : Emitted) : (e.settled target).size = e.size := by
  rcases e with ⟨i, _ | goal⟩
  · rfl
  · exact Operation.sizeOf_target i.1 _ _

/-- The weight does not depend on where goals lead. -/
theorem weight_map_settled (target : Goal → Offset) (es : List Emitted) :
    Instruction.weight (es.map (settled target)) = weight es := by
  rw [Instruction.weight, weight, List.map_map]
  exact congrArg List.sum (List.map_congr_left fun e _ => e.size_settled target)

@[simp] theorem weight_nil : weight [] = 0 := rfl

@[simp] theorem weight_cons (e : Emitted) (es : List Emitted) :
    weight (e :: es) = e.size + weight es := by
  simp [weight]

@[simp] theorem weight_append (l₁ l₂ : List Emitted) :
    weight (l₁ ++ l₂) = weight l₁ + weight l₂ := by
  simp [weight]

end Emitted

/-! ### Pieces as steps -/

namespace Piece

/-- The step of the builder that a piece amounts to. -/
def step : Piece → BodyBuilder.Step String
  | opening origin => .mark (Goal.group origin).text
  | fixed kind operand => .append kind operand
  | jump kind goal => .appendTo kind goal.text

end Piece

theorem Emitted.size_step (e : Emitted) : e.piece.step.size = e.size := by
  rcases e with ⟨i, _ | goal⟩ <;> rfl

theorem Emitted.extent_map_step (es : List Emitted) :
    BodyBuilder.extent (es.map fun e => e.piece.step) = weight es := by
  rw [BodyBuilder.extent, weight, List.map_map]
  exact congrArg List.sum (List.map_congr_left fun e _ => e.size_step)

/-- Laying out operations of a draft packs them. -/
theorem Emitted.lay_map_piece (target : String → Offset) (place : ℕ) (es : List Emitted) :
    BodyBuilder.lay target place (es.map fun e => e.piece.step) =
      Body.packed place (es.map (settled fun goal => target goal.text)) := by
  induction es generalizing place with
  | nil => rfl
  | cons e es ih =>
    rcases e with ⟨i, _ | goal⟩
    · exact congrArg (_ :: ·) (ih (place + Operation.sizeOf i.1 i.2))
    · have hsize : Operation.sizeOf i.1 (.target 0) =
          Instruction.size (i.1, .target (target goal.text)) := Operation.sizeOf_target i.1 _ _
      have h := ih (place + Operation.sizeOf i.1 (.target 0))
      rw [hsize] at h
      exact congrArg (_ :: ·) h

/-- The group of a given operation in a draft. -/
structure Tile where
  /-- The offset of the given operation. -/
  origin : Offset
  /-- The operations of the group. -/
  emitted : List Emitted

namespace Tile

/-- The pieces of a tile. -/
def pieces (t : Tile) : List Piece :=
  .opening t.origin :: t.emitted.map Emitted.piece

/-- A draft: a prologue and tiles. -/
def draft (prologue : List Emitted) (tiles : List Tile) : List Piece :=
  prologue.map Emitted.piece ++ tiles.flatMap pieces

/-- The operations of a draft. -/
def code (prologue : List Emitted) (tiles : List Tile) : List Emitted :=
  prologue ++ tiles.flatMap emitted

/-- The groups of tiles that are laid out from a place on, in order. -/
def groups : ℕ → List Tile → List Group
  | _, [] => []
  | place, t :: tiles =>
    ⟨t.origin, .capped place, .capped (place + Emitted.weight t.emitted.dropLast)⟩ ::
      groups (place + Emitted.weight t.emitted) tiles

theorem getElem?_groups (place : ℕ) (tiles : List Tile) (j : ℕ) :
    (groups place tiles)[j]? = tiles[j]?.map fun t =>
      let first := place + Emitted.weight ((tiles.take j).flatMap emitted)
      ⟨t.origin, .capped first, .capped (first + Emitted.weight t.emitted.dropLast)⟩ := by
  induction tiles generalizing place j with
  | nil => simp [groups]
  | cons t tiles ih =>
    cases j with
    | zero => simp [groups]
    | succ j => simp [groups, ih, Nat.add_assoc]

theorem map_origin_groups (place : ℕ) (tiles : List Tile) :
    (groups place tiles).map Group.origin = tiles.map origin := by
  induction tiles generalizing place with
  | nil => rfl
  | cons t tiles ih => exact congrArg (t.origin :: ·) (ih _)

end Tile

/-! ### The last operation -/

namespace BodyBuilder

variable {Label : Type} (b : BodyBuilder Label)

@[simp] theorem lastOffset?_append (kind : OpKind) (operand : Operand) :
    (b.append kind operand).lastOffset? = some b.position := by
  simp [lastOffset?, append]

@[simp] theorem lastOffset?_appendTo (kind : OpKind) (label : Label) :
    (b.appendTo kind label).lastOffset? = some b.position :=
  lastOffset?_append { b with pending := (b.appended.size, label) :: b.pending } kind (.target 0)

/-- Marking a label appends nothing. -/
theorem lastOffset?_of_mark [DecidableEq Label] {b b₁ : BodyBuilder Label} {label : Label}
    (h : b.mark label = .ok b₁) : b₁.lastOffset? = b.lastOffset? := by
  rw [mark] at h
  split_ifs at h
  cases h
  rfl

end BodyBuilder

/-! ### Laying out -/

namespace Layout

/-- The groups, the latest first, when pieces are added from a place on, behind an operation at an
offset, and the last group is closed. -/
def regrouped : ℕ → Option Offset → List Group → List Piece → List Group
  | _, last?, gs, [] => closed last? gs
  | place, last?, gs, .opening origin :: pieces =>
    regrouped place last? (⟨origin, .capped place, .capped place⟩ :: closed last? gs) pieces
  | place, _, gs, p :: pieces => regrouped (place + p.step.size) (some (.capped place)) gs pieces

/-- An operation leaves the groups as they are. -/
theorem regrouped_of_isOperation {p : Piece} (hp : p.isOperation = true) (place : ℕ)
    (last? : Option Offset) (gs : List Group) (pieces : List Piece) :
    regrouped place last? gs (p :: pieces) =
      regrouped (place + p.step.size) (some (.capped place)) gs pieces := by
  cases p with
  | opening origin => cases hp
  | _ => rfl

/-- Laying out pieces runs their steps and regroups along the way. -/
theorem foldlM_add {l : Layout} (place : ℕ) (hl : l.body.position = .capped place)
    {pieces : List Piece} {b : BodyBuilder String}
    (h : l.body.run (pieces.map Piece.step) = .ok b) :
    (pieces.foldlM add l).map close =
      .ok ⟨b, regrouped place l.body.lastOffset? l.groups pieces⟩ := by
  induction pieces generalizing l place with
  | nil =>
    cases h
    rfl
  | cons p pieces ih =>
    rw [BodyBuilder.run, List.map_cons, List.foldlM_cons] at h
    cases hstep : l.body.step p.step with
    | error fault =>
      rw [hstep] at h
      cases h
    | ok b₁ =>
      rw [hstep] at h
      have hposition := BodyBuilder.position_of_step hl hstep
      cases p with
      | opening origin =>
        have hadd : l.add (.opening origin) =
            .ok ⟨b₁, ⟨origin, .capped place, .capped place⟩ :: l.close.groups⟩ := by
          rw [add, ← hl]
          exact congrArg (Except.map _) hstep
        have hlast : b₁.lastOffset? = l.body.lastOffset? :=
          BodyBuilder.lastOffset?_of_mark hstep
        rw [List.foldlM_cons, hadd, regrouped, close, ← hlast]
        let g : Group := ⟨origin, .capped place, .capped place⟩
        exact ih (l := ⟨b₁, g :: closed b₁.lastOffset? l.groups⟩) place hposition h
      | fixed kind operand =>
        cases hstep
        rw [List.foldlM_cons, regrouped_of_isOperation rfl, ← hl,
          ← BodyBuilder.lastOffset?_append l.body kind operand]
        exact ih (l := { l with body := l.body.append kind operand }) _ hposition h
      | jump kind goal =>
        cases hstep
        rw [List.foldlM_cons, regrouped_of_isOperation rfl, ← hl,
          ← BodyBuilder.lastOffset?_appendTo l.body kind goal.text]
        exact ih (l := { l with body := l.body.appendTo kind goal.text }) _ hposition h

/-- Operations leave the groups as they are; the last one of them is where a group is closed. -/
private theorem regrouped_emitted (place : ℕ) (last? : Option Offset) (gs : List Group)
    {es : List Emitted} (hes : es ≠ []) (pieces : List Piece) :
    regrouped place last? gs (es.map Emitted.piece ++ pieces) =
      regrouped (place + Emitted.weight es) (some (.capped (place + Emitted.weight es.dropLast)))
        gs pieces := by
  induction es generalizing place last? with
  | nil => exact absurd rfl hes
  | cons e es ih =>
    rw [List.map_cons, List.cons_append, regrouped_of_isOperation e.isOperation_piece, e.size_step]
    rcases es with _ | ⟨e', es⟩
    · simp
    · rw [ih _ _ (List.cons_ne_nil e' es), List.dropLast_cons_cons, Emitted.weight_cons e,
        Emitted.weight_cons e, Nat.add_assoc, Nat.add_assoc]

/-- Groups of different operations are told apart by the operation. -/
private theorem find?_origin {l : List Group} (hl : (l.map Group.origin).Nodup) {g : Group}
    (hg : g ∈ l) : l.find? (fun h => h.origin = g.origin) = some g := by
  induction l with
  | nil => exact absurd hg List.not_mem_nil
  | cons h l ih =>
    rw [List.map_cons, List.nodup_cons] at hl
    rcases List.mem_cons.1 hg with rfl | hg
    · simp
    · have hne : h.origin ≠ g.origin := fun heq => hl.1 (heq ▸ List.mem_map_of_mem hg)
      rw [List.find?_cons_of_neg (by simpa using hne)]
      exact ih hl.2 hg

/-- The groups behind tiles are the groups of the tiles. -/
private theorem regrouped_tiles (place : ℕ) (last? : Option Offset) (gs : List Group)
    {tiles : List Tile} (hne : ∀ t ∈ tiles, t.emitted ≠ []) :
    regrouped place last? gs (tiles.flatMap Tile.pieces) =
      (Tile.groups place tiles).reverse ++ closed last? gs := by
  induction tiles generalizing place last? gs with
  | nil => rfl
  | cons t tiles ih =>
    have hopen : regrouped place last? gs (t.pieces ++ tiles.flatMap Tile.pieces) =
        regrouped place last? (⟨t.origin, .capped place, .capped place⟩ :: closed last? gs)
          (t.emitted.map Emitted.piece ++ tiles.flatMap Tile.pieces) := rfl
    rw [List.flatMap_cons, hopen, regrouped_emitted _ _ _ (hne t List.mem_cons_self),
      ih _ _ _ fun u hu => hne u (List.mem_cons_of_mem t hu), Tile.groups, List.reverse_cons,
      List.append_assoc, List.singleton_append, closed, Option.getD_some]

/-- Operations in front of all groups are in none of them. -/
private theorem regrouped_prologue (place : ℕ) (last? : Option Offset) (es : List Emitted)
    {tiles : List Tile} (hne : ∀ t ∈ tiles, t.emitted ≠ []) :
    regrouped place last? [] (Tile.draft es tiles) =
      (Tile.groups (place + Emitted.weight es) tiles).reverse := by
  have htiles (place : ℕ) (last? : Option Offset) := regrouped_tiles place last? [] hne
  simp only [closed, List.append_nil] at htiles
  rw [Tile.draft]
  cases es with
  | nil => exact htiles place last?
  | cons e es => rw [regrouped_emitted _ _ _ (List.cons_ne_nil e es), htiles]

end Layout

/-! ### A draft laid out -/

section Draft

variable {prologue : List Emitted} {tiles : List Tile}

/-- The steps of a draft. -/
def Tile.steps (prologue : List Emitted) (tiles : List Tile) : List (BodyBuilder.Step String) :=
  (Tile.draft prologue tiles).map Piece.step

namespace Tile

theorem steps_eq : steps prologue tiles = prologue.map (fun e => e.piece.step) ++
    tiles.flatMap fun t =>
      .mark (Goal.group t.origin).text :: t.emitted.map fun e => e.piece.step := by
  simp [steps, draft, pieces, Piece.step, List.map_flatMap, Function.comp_def]

theorem marked_steps :
    (steps prologue tiles).filterMap BodyBuilder.Step.marked? =
      ((tiles.map origin).map Goal.group).map Goal.text := by
  have hemitted (es : List Emitted) :
      (es.map fun e => e.piece.step).filterMap BodyBuilder.Step.marked? = [] := by
    rw [List.filterMap_map, List.filterMap_eq_nil_iff]
    rintro ⟨i, _ | goal⟩ - <;> rfl
  rw [steps_eq, List.filterMap_append, hemitted, List.nil_append]
  induction tiles with
  | nil => rfl
  | cons t tiles ih =>
    rw [List.flatMap_cons, List.filterMap_append, ih, List.filterMap_cons, hemitted]
    rfl

theorem goals_steps :
    (steps prologue tiles).filterMap BodyBuilder.Step.goal? =
      ((code prologue tiles).filterMap Emitted.goal).map Goal.text := by
  have hemitted (es : List Emitted) :
      (es.map fun e => e.piece.step).filterMap BodyBuilder.Step.goal? =
        (es.filterMap Emitted.goal).map Goal.text := by
    rw [List.filterMap_map, List.map_filterMap]
    refine List.filterMap_congr ?_
    rintro ⟨i, _ | goal⟩ - <;> rfl
  rw [steps_eq, code, List.filterMap_append, List.filterMap_append, List.map_append, hemitted]
  congr 1
  induction tiles with
  | nil => rfl
  | cons t tiles ih =>
    rw [List.flatMap_cons, List.flatMap_cons, List.filterMap_append, List.filterMap_append,
      List.map_append, ih, List.filterMap_cons, hemitted]
    rfl

theorem extent_steps : BodyBuilder.extent (steps prologue tiles) =
    Emitted.weight (code prologue tiles) := by
  rw [steps_eq, code, BodyBuilder.extent_append, Emitted.weight_append, Emitted.extent_map_step]
  congr 1
  induction tiles with
  | nil => rfl
  | cons t tiles ih =>
    rw [List.flatMap_cons, List.flatMap_cons, BodyBuilder.extent_append, Emitted.weight_append, ih,
      BodyBuilder.extent_cons, Emitted.extent_map_step, BodyBuilder.Step.size, Nat.zero_add]

theorem lay_steps (target : String → Offset) (place : ℕ) :
    BodyBuilder.lay target place (steps prologue tiles) =
      Body.packed place
        ((code prologue tiles).map (Emitted.settled fun goal => target goal.text)) := by
  rw [steps_eq, code, List.map_append, BodyBuilder.lay_append, Body.packed_append,
    Emitted.lay_map_piece, Emitted.extent_map_step, Emitted.weight_map_settled]
  congr 1
  generalize place + Emitted.weight prologue = place
  induction tiles generalizing place with
  | nil => rfl
  | cons t tiles ih =>
    rw [List.flatMap_cons, List.flatMap_cons, List.map_append, BodyBuilder.lay_append,
      Body.packed_append, BodyBuilder.lay, Emitted.lay_map_piece, BodyBuilder.extent_cons,
      Emitted.extent_map_step, Emitted.weight_map_settled, BodyBuilder.Step.size, Nat.zero_add, ih]

/-- The group of a tile is marked behind everything in front of the tile. -/
theorem mem_marks_steps {j : ℕ} {t : Tile} (hj : tiles[j]? = some t) :
    ((Goal.group t.origin).text, Emitted.weight (code prologue (tiles.take j))) ∈
      BodyBuilder.marks 0 (steps prologue tiles) := by
  obtain ⟨hlt, rfl⟩ := List.getElem?_eq_some_iff.1 hj
  have hsplit : steps prologue tiles = steps prologue (tiles.take j) ++
      .mark (Goal.group tiles[j].origin).text :: (tiles[j].emitted.map (fun e => e.piece.step) ++
        (tiles.drop (j + 1)).flatMap fun t =>
          .mark (Goal.group t.origin).text :: t.emitted.map fun e => e.piece.step) := by
    conv_lhs => rw [← List.take_append_drop j tiles, List.drop_eq_getElem_cons hlt]
    simp only [steps_eq, List.flatMap_append, List.flatMap_cons, List.append_assoc,
      List.cons_append]
  rw [hsplit, BodyBuilder.marks_append, extent_steps, Nat.zero_add]
  exact List.mem_append_right _ List.mem_cons_self

end Tile

namespace Layout

/-- A draft laid out. -/
def ofDraft (prologue : List Emitted) (tiles : List Tile) : Layout :=
  ⟨BodyBuilder.empty.extended 0 (Tile.steps prologue tiles),
    (Tile.groups (Emitted.weight prologue) tiles).reverse⟩

/-- The steps of a draft, with the mark of its end. -/
def endedSteps (prologue : List Emitted) (tiles : List Tile) : List (BodyBuilder.Step String) :=
  Tile.steps prologue tiles ++ [.mark Goal.codeEnd.text]

/-- The labels of the groups are marked, and that of the end. -/
theorem marked_endedSteps (prologue : List Emitted) (tiles : List Tile) :
    (endedSteps prologue tiles).filterMap BodyBuilder.Step.marked? =
      ((tiles.map Tile.origin).map Goal.group ++ [Goal.codeEnd]).map Goal.text := by
  rw [endedSteps, List.filterMap_append, Tile.marked_steps, List.map_append]
  rfl

theorem goals_endedSteps (prologue : List Emitted) (tiles : List Tile) :
    (endedSteps prologue tiles).filterMap BodyBuilder.Step.goal? =
      ((Tile.code prologue tiles).filterMap Emitted.goal).map Goal.text := by
  rw [endedSteps, List.filterMap_append, Tile.goals_steps]
  exact List.append_nil _

variable (hnew : (tiles.map Tile.origin).Nodup)
include hnew

/-- No label is marked twice, since different goals have different labels. -/
private theorem nodup_marked_endedSteps :
    ((endedSteps prologue tiles).filterMap BodyBuilder.Step.marked?).Nodup := by
  have hgroups : ((tiles.map Tile.origin).map Goal.group).Nodup :=
    List.Nodup.map (fun _ _ => Goal.group.inj) hnew
  have hgoals : ((tiles.map Tile.origin).map Goal.group ++ [Goal.codeEnd]).Nodup :=
    List.nodup_append.2 ⟨hgroups, List.nodup_singleton _, by simp⟩
  rw [marked_endedSteps]
  exact hgoals.map Goal.text_injective

private theorem nodup_marked :
    ((Tile.steps prologue tiles).filterMap BodyBuilder.Step.marked?).Nodup := by
  have hended : ((endedSteps prologue tiles).filterMap BodyBuilder.Step.marked?).Nodup :=
    nodup_marked_endedSteps hnew
  rw [endedSteps, List.filterMap_append] at hended
  exact hended.of_append_left

private theorem run_steps :
    BodyBuilder.empty.run (Tile.steps prologue tiles) =
      .ok (BodyBuilder.empty.extended 0 (Tile.steps prologue tiles)) := by
  refine BodyBuilder.run_eq_ok rfl ?_
  rw [BodyBuilder.empty, List.map_nil, List.append_nil]
  exact nodup_marked hnew

/-- A draft in which no group is opened twice can be laid out. -/
theorem ofPieces_draft (hne : ∀ t ∈ tiles, t.emitted ≠ []) :
    ofPieces (Tile.draft prologue tiles) = .ok (ofDraft prologue tiles) := by
  have hgroups := regrouped_prologue 0 none prologue hne
  rw [Nat.zero_add] at hgroups
  rw [ofPieces, foldlM_add (l := {}) 0 rfl (run_steps hnew), ofDraft, ← hgroups]
  rfl

theorem run_endedSteps : BodyBuilder.empty.run (endedSteps prologue tiles) =
    .ok (BodyBuilder.empty.extended 0 (endedSteps prologue tiles)) :=
  BodyBuilder.run_eq_ok rfl (by simpa [BodyBuilder.empty] using nodup_marked_endedSteps hnew)

/-- The end of a draft can be marked. -/
theorem mark_codeEnd : (ofDraft prologue tiles).body.mark Goal.codeEnd.text =
    .ok (BodyBuilder.empty.extended 0 (endedSteps prologue tiles)) := by
  rw [← run_endedSteps hnew, endedSteps, BodyBuilder.run_append, run_steps hnew]
  simp [BodyBuilder.run, Except.bind, BodyBuilder.step, ofDraft]

/-- The body of a draft, when goals lead to the tiles they name and to the end. -/
theorem build_draft {target : Goal → Offset}
    (hgroup : ∀ j t, tiles[j]? = some t → target (.group t.origin) =
      .capped (Emitted.weight (Tile.code prologue (tiles.take j))))
    (hend : target .codeEnd = .capped (Emitted.weight (Tile.code prologue tiles)))
    (hgoals : ∀ origin, .group origin ∈ (Tile.code prologue tiles).filterMap Emitted.goal →
      origin ∈ tiles.map Tile.origin) :
    (ofDraft prologue tiles).build =
      .ok (Body.packed 0 ((Tile.code prologue tiles).map (Emitted.settled target))) := by
  have hlay : BodyBuilder.lay (Goal.leading target) 0 (endedSteps prologue tiles) =
      Body.packed 0 ((Tile.code prologue tiles).map (Emitted.settled target)) := by
    rw [endedSteps, BodyBuilder.lay_append, Tile.lay_steps, BodyBuilder.lay, BodyBuilder.lay,
      List.append_nil]
    simp only [Goal.leading_text]
  rw [build, mark_codeEnd hnew, ← hlay]
  refine BodyBuilder.build_extended (nodup_marked_endedSteps hnew) fun label hlabel => ?_
  rw [goals_endedSteps] at hlabel
  obtain ⟨goal, hgoal, rfl⟩ := List.mem_map.1 hlabel
  rw [endedSteps, BodyBuilder.marks_append, Goal.leading_text]
  cases goal with
  | codeEnd =>
    refine ⟨_, List.mem_append_right _ List.mem_cons_self, ?_⟩
    rw [hend, Tile.extent_steps, Nat.zero_add]
  | group origin =>
    obtain ⟨t, ht, rfl⟩ := List.mem_map.1 (hgoals origin hgoal)
    obtain ⟨j, hj⟩ := List.mem_iff_getElem?.1 ht
    exact ⟨_, List.mem_append_left _ (Tile.mem_marks_steps hj), hgroup j t hj⟩

/-- The group of a tile reaches from its first operation to its last. -/
theorem group?_draft {j : ℕ} {t : Tile} (hj : tiles[j]? = some t) :
    (ofDraft prologue tiles).group? t.origin =
      some ⟨t.origin, .capped (Emitted.weight (Tile.code prologue (tiles.take j))),
        .capped (Emitted.weight (Tile.code prologue (tiles.take j) ++ t.emitted.dropLast))⟩ := by
  have hget := Tile.getElem?_groups (Emitted.weight prologue) tiles j
  rw [hj, Option.map_some] at hget
  simp only [group?, Tile.code, Emitted.weight_append]
  refine find?_origin (l := (ofDraft prologue tiles).groups) ?_
    (List.mem_reverse.2 (List.mem_of_getElem? hget))
  rw [ofDraft, List.map_reverse, Tile.map_origin_groups]
  exact List.pairwise_reverse.2 (hnew.imp Ne.symm)

/-- A range that starts at a given operation starts at the first operation of its tile. -/
theorem start_draft {j : ℕ} {t : Tile} (hj : tiles[j]? = some t) :
    (ofDraft prologue tiles).start t.origin =
      .capped (Emitted.weight (Tile.code prologue (tiles.take j))) := by
  rw [start, group?_draft hnew hj]
  rfl

/-- A range that ends at a given operation ends at the last operation of its tile. -/
theorem stop_draft {j : ℕ} {t : Tile} (hj : tiles[j]? = some t) :
    (ofDraft prologue tiles).stop t.origin =
      .capped (Emitted.weight (Tile.code prologue (tiles.take j) ++ t.emitted.dropLast)) := by
  rw [stop, group?_draft hnew hj]
  rfl

end Layout

end Draft

end BuildDrift
