import BuildDrift.Instrumentation.Basic
import BuildDrift.Proofs.Instrumentation.Pass
import BuildDrift.Proofs.Instrumentation.Tiling

/-!
# Where everything is placed

The draft of an instrumented body is a prologue and a tile for every given operation. A tile holds
what stands in front of the image of the operation, the image, and what trails behind it, which
includes the record of a call that the treatment of the next operation asks for. So the
instrumented body can be written down without laying anything out: its instructions are packed,
and a target that named a given operation is the offset at which the tile of that operation begins.

## Main definitions

* `Treatment.lead`, `head`, `image`, `trail`: what a treatment emits, in order.
* `MethodDefinition.tiles`: the tiles of the instrumented body.
* `MethodDefinition.groupStart`, `MethodDefinition.imageAt`: the positions at which the group of an
  operation begins and at which its image stands.
* `MethodDefinition.relocate`: where a target of the given body leads.
* `MethodDefinition.code`: the instructions of the instrumented body.

## Main results

* `MethodDefinition.inject_eq_ok`: instrumenting a body that is ordered.
* `MethodDefinition.drop_code`: the instructions from a group on.
* `MethodDefinition.relocate_offset`, `MethodDefinition.relocate_codeSize`: where targets lead.
* `MethodDefinition.start_offset`, `MethodDefinition.stop_offset`: where ranges start and stop.
-/

namespace BuildDrift

open Instruction

/-! ### What a treatment emits -/

namespace Treatment

variable (c : InstrumentConfig)

/-- The record of a construction or of a call without its result. -/
def callRecord (subject : UInt16) (callee : String) : List Instruction :=
  [loadLocal subject, loadString callee, call c.api.recordCall]

/-- The record of a call and of its result. -/
def resultRecord (subject temporary : UInt16) (callee : MethodRef) (result : TypeRef) :
    List Instruction :=
  [loadLocal subject, loadLocal temporary] ++
    (if result.isValueType then [(.box, .type result)] else []) ++
    [loadString callee.name, call c.api.recordResult]

/-- What is emitted in front of the group of the operation. -/
def lead : Treatment → List Instruction
  | plainCall subject callee => callRecord c subject callee.name
  | _ => []

/-- What is emitted within the group in front of the image of the operation. -/
def head (o : Operation) : Treatment → List Instruction
  | construction _ | resultCall .. => []
  | _ => if o.isReturn then [call c.api.endTest] else []

/-- The image of the operation, with its target moved. -/
def image (f : Offset → Offset) (o : Operation) : Treatment → Instruction
  | resultCall _ temporary .. => storeLocal temporary
  | _ => (o.kind, o.operand.retarget f)

/-- What is emitted behind the image of the operation. -/
def trail : Treatment → List Instruction
  | construction subject => callRecord c subject c.constructorSignature
  | resultCall subject temporary callee result => resultRecord c subject temporary callee result
  | _ => []

/-- The image of the operation as an operation of the draft. -/
def emitted (r : Relocation) (o : Operation) : Treatment → Emitted
  | resultCall _ temporary .. => ⟨storeLocal temporary, none⟩
  | _ => ⟨o.instruction, o.target?.bind r.goal?⟩

end Treatment

namespace Emitted

/-- An instruction as it is. -/
def plain (i : Instruction) : Emitted := ⟨i, none⟩

theorem map_settled_plain (target : Goal → Offset) (l : List Instruction) :
    (l.map plain).map (settled target) = l := by
  rw [List.map_map]
  exact List.map_id l

end Emitted

theorem Relocation.piece_emitted (r : Relocation) (o : Operation) :
    (⟨o.instruction, o.target?.bind r.goal?⟩ : Emitted).piece = r.keep o := by
  rw [Relocation.keep, Emitted.piece]
  cases o.target?.bind r.goal? <;> rfl

/-- An operation that is kept takes up what it has taken up. -/
theorem Relocation.size_emitted (r : Relocation) (o : Operation) :
    (⟨o.instruction, o.target?.bind r.goal?⟩ : Emitted).size = o.size := by
  rcases o with ⟨offset, kind, operand⟩
  cases operand with
  | target s =>
    simp only [Emitted.size, Emitted.settled, Operation.target?, Option.bind_some]
    cases r.goal? s with
    | none => rfl
    | some goal => exact Operation.sizeOf_target kind _ _
  | _ => rfl

theorem Treatment.pieces_eq (c : InstrumentConfig) (r : Relocation) (o : Operation)
    (t : Treatment) : t.pieces c r o = ((t.lead c).map Emitted.plain).map Emitted.piece ++
      .opening o.offset :: ((t.head c o).map Emitted.plain ++ t.emitted r o ::
        (t.trail c).map Emitted.plain).map Emitted.piece := by
  have hkept : keptGroup c.api r o = .opening o.offset ::
      ((if o.isReturn then [call c.api.endTest] else []).map Emitted.plain ++
        ([⟨o.instruction, o.target?.bind r.goal?⟩] : List Emitted)).map Emitted.piece := by
    rw [keptGroup, List.map_append, List.map_singleton, r.piece_emitted]
    split_ifs <;> rfl
  cases t with
  | construction subject =>
    rw [pieces, ← r.piece_emitted]
    rfl
  | resultCall subject temporary callee result =>
    simp only [pieces, recordResult, lead, head, emitted, trail, resultRecord]
    split_ifs <;> rfl
  | keep => exact hkept
  | unrecorded obstacle => exact hkept
  | plainCall subject callee =>
    rw [pieces, hkept]
    rfl

theorem Treatment.settled_emitted (target : Goal → Offset) (r : Relocation) (o : Operation)
    (t : Treatment) : (t.emitted r o).settled target =
      t.image (fun s => ((r.goal? s).map target).getD s) o := by
  have hkept : (⟨o.instruction, o.target?.bind r.goal?⟩ : Emitted).settled target =
      (o.kind, o.operand.retarget fun s => ((r.goal? s).map target).getD s) := by
    rcases o with ⟨offset, kind, operand⟩
    cases operand with
    | target s =>
      simp only [Emitted.settled, Operation.target?, Operand.retarget, Option.bind_some]
      cases r.goal? s <;> rfl
    | _ => rfl
  cases t with
  | resultCall => rfl
  | _ => exact hkept

namespace MethodDefinition

/-! ### Tiles -/

section Tiles

variable (c : InstrumentConfig) (r : Relocation)

/-- What is emitted in front of the group of the first of several operations. -/
def leadOf : List (Operation × Treatment) → List Instruction
  | [] => []
  | (_, t) :: _ => t.lead c

/-- The tiles of operations that are treated. -/
def tilesOf : List (Operation × Treatment) → List Tile
  | [] => []
  | (o, t) :: rest =>
    ⟨o.offset, (t.head c o).map Emitted.plain ++
      t.emitted r o :: (t.trail c ++ leadOf c rest).map Emitted.plain⟩ :: tilesOf rest

theorem map_origin_tilesOf (treated : List (Operation × Treatment)) :
    (tilesOf c r treated).map Tile.origin = (treated.map Prod.fst).map Operation.offset := by
  induction treated with
  | nil => rfl
  | cons entry treated ih => exact congrArg (entry.1.offset :: ·) ih

theorem emitted_ne_nil {treated : List (Operation × Treatment)} :
    ∀ t ∈ tilesOf c r treated, t.emitted ≠ [] := by
  induction treated with
  | nil => exact fun t ht => absurd ht List.not_mem_nil
  | cons entry treated ih =>
    intro t ht
    rcases List.mem_cons.1 ht with rfl | ht
    · simp
    · exact ih t ht

/-- Pieces regrouped into tiles: what is emitted in front of a group belongs to the tile before. -/
theorem flatMap_pieces (treated : List (Operation × Treatment)) :
    treated.flatMap (fun (o, t) => t.pieces c r o) =
      ((leadOf c treated).map Emitted.plain).map Emitted.piece ++
        (tilesOf c r treated).flatMap Tile.pieces := by
  induction treated with
  | nil => rfl
  | cons entry treated ih =>
    obtain ⟨o, t⟩ := entry
    have hpieces := t.pieces_eq c r o
    rw [List.flatMap_cons, ih, tilesOf, List.flatMap_cons, Tile.pieces]
    simp [hpieces, leadOf]

/-- The tile of an operation, with what is emitted for the next one in front of its group. -/
theorem getElem?_tilesOf {treated : List (Operation × Treatment)} {j : ℕ} {o : Operation}
    {t : Treatment} (hj : treated[j]? = some (o, t)) :
    (tilesOf c r treated)[j]? = some ⟨o.offset, (t.head c o).map Emitted.plain ++
      t.emitted r o :: (t.trail c ++ leadOf c (treated.drop (j + 1))).map Emitted.plain⟩ := by
  induction treated generalizing j with
  | nil => simp at hj
  | cons entry treated ih =>
    cases j with
    | zero =>
      cases hj
      rfl
    | succ j => exact ih hj

end Tiles

/-! ### The instrumented body -/

variable (m : MethodDefinition) (c : InstrumentConfig) (region : ExceptionRegion)

/-- What is known about the targets of the body. -/
def relocation : Relocation :=
  ⟨⟨m.operations.toArray, m.operations.positions⟩, m.codeSize⟩

/-- What comes before the first tile. -/
def opening : List Emitted :=
  [.plain (loadString m.declaringType.name), .plain (call c.api.startTest)]

/-- The tiles of the instrumented body. -/
def tiles : List Tile :=
  tilesOf c m.relocation (m.treatments c region).1

/-- The position at which the group of the operation at position `j` begins; behind the last
operation, the length of the instrumented body. -/
def groupStart (j : ℕ) : ℕ :=
  (Tile.code (m.opening c) ((m.tiles c region).take j)).length

/-- What stands in front of the image of the operation at position `j` within its group. -/
def headAt (j : ℕ) : List Instruction :=
  match (m.treatments c region).1[j]? with
  | some (o, t) => t.head c o
  | none => []

/-- What trails behind the image of the operation at position `j` within its group. -/
def tailAt (j : ℕ) : List Instruction :=
  match (m.treatments c region).1[j]? with
  | some (_, t) => t.trail c ++ leadOf c ((m.treatments c region).1.drop (j + 1))
  | none => []

/-- The position of the image of the operation at position `j`. -/
def imageAt (j : ℕ) : ℕ :=
  m.groupStart c region j + (m.headAt c region j).length

/-- The offset at which the group of the operation at position `j` begins. -/
def groupOffset (j : ℕ) : Offset :=
  .capped (Emitted.weight (Tile.code (m.opening c) ((m.tiles c region).take j)))

/-- Where goals lead. -/
def landing : Goal → Offset
  | .group origin => (m.operations.positions[origin]?).elim origin (m.groupOffset c region)
  | .codeEnd => .capped (Emitted.weight (Tile.code (m.opening c) (m.tiles c region)))

/-- Where a target of the given body leads; a target that is nothing there is kept. -/
def relocate (target : Offset) : Offset :=
  ((m.relocation.goal? target).map (m.landing c region)).getD target

/-- The instructions of the instrumented body. -/
def code : List Instruction :=
  (Tile.code (m.opening c) (m.tiles c region)).map (Emitted.settled (m.landing c region))

/-! ### Instrumenting succeeds -/

theorem map_fst_treatments : (m.treatments c region).1.map Prod.fst = m.operations :=
  Progress.map_fst_treatAll ..

theorem length_treatments : (m.treatments c region).1.length = m.operations.length := by
  rw [← m.map_fst_treatments c region, List.length_map]

private theorem lead_of_rule_none {p q : Progress} {o : Operation} {inTry : Bool} {t : Treatment}
    (h : Progress.Rule p o inTry none t q) : t.lead c = [] := by
  cases h <;> rfl

/-- The first operation has no call in front of it. -/
theorem leadOf_treatments : leadOf c (m.treatments c region).1 = [] := by
  rw [treatments]
  cases m.operations with
  | nil => rfl
  | cons o rest =>
    rw [Progress.treatAll, leadOf]
    exact lead_of_rule_none c (Progress.treat_rule ..)

theorem draft_eq : m.draft c m.relocation (m.treatments c region).1 =
    Tile.draft (m.opening c) (m.tiles c region) := by
  rw [draft, flatMap_pieces, m.leadOf_treatments, Tile.draft]
  rfl

variable {m}

theorem nodup_origins (hm : m.operations.Ordered) :
    ((m.tiles c region).map Tile.origin).Nodup := by
  rw [tiles, map_origin_tilesOf, map_fst_treatments]
  exact hm.nodup_offsets

theorem ofBody_operations (hm : m.operations.Ordered) :
    BodyIndex.ofBody m.operations = .ok m.relocation.index := by
  rw [BodyIndex.ofBody, (Body.checkOrder_eq_ok_iff _).2 hm]
  rfl

theorem contains_index_iff (hm : m.operations.Ordered) {offset : Offset} :
    m.relocation.index.contains offset = true ↔ ∃ o ∈ m.operations, o.offset = offset :=
  BodyIndex.contains_ofBody_iff hm (ofBody_operations hm)

omit m in
private theorem contains_of_goal {r : Relocation} {treated : List (Operation × Treatment)}
    {t : Tile} (ht : t ∈ tilesOf c r treated) {e : Emitted} (he : e ∈ t.emitted)
    {origin : Offset} (hgoal : e.goal = some (.group origin)) :
    r.index.contains origin = true := by
  have hplain (l : List Instruction) (hl : e ∈ l.map Emitted.plain) : False := by
    obtain ⟨i, -, rfl⟩ := List.mem_map.1 hl
    exact absurd hgoal (by simp [Emitted.plain])
  induction treated with
  | nil => exact absurd ht List.not_mem_nil
  | cons entry treated ih =>
    obtain ⟨o, u⟩ := entry
    rcases List.mem_cons.1 ht with rfl | ht
    · rcases List.mem_append.1 he with he | he
      · exact (hplain _ he).elim
      rcases List.mem_cons.1 he with rfl | he
      · have hbind : (u.emitted r o).goal = none ∨
            (u.emitted r o).goal = o.target?.bind r.goal? := by
          cases u <;> simp [Treatment.emitted]
        rw [hgoal] at hbind
        obtain ⟨s, -, hs⟩ := Option.bind_eq_some_iff.1 (hbind.resolve_left (by simp)).symm
        rw [Relocation.goal?] at hs
        split_ifs at hs with hcontains hend
        · cases hs
          exact hcontains
        · cases hs
      · exact (hplain _ he).elim
    · exact ih ht

/-- Goals name operations of the given body. -/
theorem origin_of_goal (hm : m.operations.Ordered) {origin : Offset}
    (h : .group origin ∈ (Tile.code (m.opening c) (m.tiles c region)).filterMap Emitted.goal) :
    origin ∈ (m.tiles c region).map Tile.origin := by
  obtain ⟨e, he, hgoal⟩ := List.mem_filterMap.1 h
  rcases List.mem_append.1 he with he | he
  · have hplain : e.goal = none := by
      simp only [opening, List.mem_cons, List.not_mem_nil, or_false] at he
      rcases he with rfl | rfl <;> rfl
    exact absurd (hplain.symm.trans hgoal) (by simp)
  · obtain ⟨t, ht, he⟩ := List.mem_flatMap.1 he
    obtain ⟨o, ho, rfl⟩ := (contains_index_iff hm).1 (contains_of_goal c ht he hgoal)
    rw [tiles, map_origin_tilesOf, map_fst_treatments]
    exact List.mem_map_of_mem ho

theorem landing_group (hm : m.operations.Ordered) {j : ℕ} {o : Operation}
    (hj : m.operations[j]? = some o) :
    m.landing c region (.group o.offset) = m.groupOffset c region j := by
  rw [landing, hm.positions_getElem hj, Option.elim_some]

/-- The tile of an operation. -/
theorem getElem?_tiles {j : ℕ} {o : Operation} {t : Treatment}
    (hj : (m.treatments c region).1[j]? = some (o, t)) :
    (m.tiles c region)[j]? = some ⟨o.offset, (m.headAt c region j).map Emitted.plain ++
      t.emitted m.relocation o :: (m.tailAt c region j).map Emitted.plain⟩ := by
  rw [tiles, getElem?_tilesOf c m.relocation hj, headAt, tailAt, hj]

/-- Operations, treatments and tiles stand at the same positions. -/
theorem getElem?_treatments {j : ℕ} {o : Operation} (hj : m.operations[j]? = some o) :
    ∃ t, (m.treatments c region).1[j]? = some (o, t) :=
  ⟨_, Progress.getElem?_treatAll _ _ hj⟩

theorem operation_of_tile {j : ℕ} {t : Tile} (hj : (m.tiles c region)[j]? = some t) :
    ∃ o, m.operations[j]? = some o ∧ o.offset = t.origin := by
  have horigin : ((m.tiles c region).map Tile.origin)[j]? = some t.origin := by
    rw [List.getElem?_map, hj, Option.map_some]
  rw [tiles, map_origin_tilesOf, map_fst_treatments, List.getElem?_map] at horigin
  exact Option.map_eq_some_iff.1 horigin

/-- A method whose body is ordered can be instrumented. -/
theorem inject_eq_ok (hm : m.operations.Ordered) : ∃ logs, m.inject c region = .ok {
    method := { m with
      operations := Body.packed 0 (m.code c region)
      regions := m.regions.map (Layout.ofDraft (m.opening c) (m.tiles c region)).moveRegion
      locals := (m.treatments c region).2.temporaries.locals
      maxStack := max m.maxStack c.leastMaxStack }
    tally := .ofBody (m.treatments c region).1
    logs } := by
  have hlayout : Layout.ofPieces (m.draft c m.relocation (m.treatments c region).1) =
      .ok (.ofDraft (m.opening c) (m.tiles c region)) := by
    rw [draft_eq]
    exact Layout.ofPieces_draft (nodup_origins c region hm) (emitted_ne_nil c m.relocation)
  have hbuild : (Layout.ofDraft (m.opening c) (m.tiles c region)).build =
      .ok (Body.packed 0 (m.code c region)) := by
    refine Layout.build_draft (nodup_origins c region hm) (fun j t hj => ?_) rfl
      fun origin => origin_of_goal c region hm
    obtain ⟨o, ho, horigin⟩ := operation_of_tile c region hj
    rw [← horigin, landing_group c region hm ho, groupOffset]
  refine ⟨(m.treatments c region).1.flatMap (fun (o, t) => t.logs m.relocation o) ++
    [m.summary (m.draft c m.relocation (m.treatments c region).1)
      (.ofBody (m.treatments c region).1)], ?_⟩
  have hrelocation : (⟨m.relocation.index, m.codeSize⟩ : Relocation) = m.relocation := rfl
  simp only [inject, ofBody_operations hm, Except.mapError, bind, Except.bind, hrelocation,
    hlayout, hbuild]
  rfl

/-! ### Positions -/

omit m in
/-- A draft up to a tile, the tile, and what is behind it. -/
private theorem code_split (prologue : List Emitted) {tiles : List Tile} {j : ℕ} {t : Tile}
    (hj : tiles[j]? = some t) : Tile.code prologue tiles =
      Tile.code prologue (tiles.take j) ++ (t.emitted ++ (tiles.drop (j + 1)).flatMap
        Tile.emitted) := by
  obtain ⟨hlt, rfl⟩ := List.getElem?_eq_some_iff.1 hj
  conv_lhs => rw [← List.take_append_drop j tiles, List.drop_eq_getElem_cons hlt]
  simp only [Tile.code, List.flatMap_append, List.flatMap_cons, List.append_assoc]

omit m in
private theorem code_take_succ (prologue : List Emitted) {tiles : List Tile} {j : ℕ} {t : Tile}
    (hj : tiles[j]? = some t) :
    Tile.code prologue (tiles.take (j + 1)) = Tile.code prologue (tiles.take j) ++ t.emitted := by
  rw [List.take_add_one, hj, Option.toList_some, Tile.code, Tile.code, List.flatMap_append,
    List.append_assoc, List.flatMap_singleton]

@[simp] theorem groupStart_zero : m.groupStart c region 0 = 2 := by
  simp [groupStart, Tile.code, opening]

theorem length_tiles : (m.tiles c region).length = m.operations.length := by
  rw [← List.length_map Tile.origin, tiles, map_origin_tilesOf, map_fst_treatments,
    List.length_map]

/-- Behind the last operation, groups begin at the end. -/
theorem groupStart_of_length_le {j : ℕ} (hj : m.operations.length ≤ j) :
    m.groupStart c region j = (m.code c region).length := by
  rw [groupStart, code, List.length_map, List.take_of_length_le (length_tiles c region ▸ hj)]

theorem groupStart_length :
    m.groupStart c region m.operations.length = (m.code c region).length :=
  groupStart_of_length_le c region (Nat.le_refl _)

section Position

variable {j : ℕ} {o : Operation} {t : Treatment}
  (hj : (m.treatments c region).1[j]? = some (o, t))
include hj

theorem groupStart_succ : m.groupStart c region (j + 1) =
    m.imageAt c region j + 1 + (m.tailAt c region j).length := by
  rw [groupStart, code_take_succ _ (getElem?_tiles c region hj), imageAt, groupStart]
  simp only [List.length_append, List.length_map, List.length_cons]
  omega

/-- The instrumented body from the group of an operation on. -/
theorem drop_code : (m.code c region).drop (m.groupStart c region j) =
    m.headAt c region j ++ t.image (m.relocate c region) o ::
      (m.tailAt c region j ++ (m.code c region).drop (m.groupStart c region (j + 1))) := by
  have htile := getElem?_tiles c region hj
  have hsucc : (m.code c region).drop (m.groupStart c region (j + 1)) =
      (((m.tiles c region).drop (j + 1)).flatMap Tile.emitted).map
        (Emitted.settled (m.landing c region)) := by
    rw [code, code_split _ htile, ← List.append_assoc, ← code_take_succ _ htile, List.map_append,
      groupStart, List.drop_left' (by rw [List.length_map])]
  rw [hsucc, code, code_split _ htile, groupStart, List.map_append,
    List.drop_left' (by rw [List.length_map])]
  simp only [List.map_append, List.map_cons, Emitted.map_settled_plain, t.settled_emitted,
    List.append_assoc, List.cons_append]
  rfl

/-- The instrumented body from behind an image on. -/
theorem drop_code_imageAt : (m.code c region).drop (m.imageAt c region j + 1) =
    m.tailAt c region j ++ (m.code c region).drop (m.groupStart c region (j + 1)) := by
  rw [imageAt, Nat.add_assoc, ← List.drop_drop, drop_code c region hj, ← List.drop_drop,
    List.drop_left]
  rfl

/-- The instrumented body up to the group behind an operation. -/
theorem take_code_succ : (m.code c region).take (m.groupStart c region (j + 1)) =
    (m.code c region).take (m.groupStart c region j) ++
      (m.headAt c region j ++ t.image (m.relocate c region) o :: m.tailAt c region j) := by
  have hlength : m.groupStart c region (j + 1) = m.groupStart c region j +
      (m.headAt c region j ++
        t.image (m.relocate c region) o :: m.tailAt c region j).length := by
    rw [groupStart_succ c region hj, imageAt, List.length_append, List.length_cons]
    omega
  rw [hlength, List.take_add, drop_code c region hj, ← List.cons_append, ← List.append_assoc,
    List.take_left]

/-- The image of an operation stands behind what is in front of it within its group. -/
theorem getElem?_code_imageAt :
    (m.code c region)[m.imageAt c region j]? = some (t.image (m.relocate c region) o) := by
  rw [imageAt, ← List.getElem?_drop, drop_code c region hj,
    List.getElem?_append_right (Nat.le_refl _), Nat.sub_self]
  rfl

theorem groupStart_lt_length : m.groupStart c region j < (m.code c region).length := by
  have hdrop := congrArg List.length (drop_code c region hj)
  simp only [List.length_drop, List.length_append, List.length_cons] at hdrop
  omega

end Position

theorem groupStart_lt_succ {j : ℕ} (hj : j < m.operations.length) :
    m.groupStart c region j < m.groupStart c region (j + 1) := by
  obtain ⟨t, ht⟩ := getElem?_treatments c region (List.getElem?_eq_getElem hj)
  rw [groupStart_succ c region ht, imageAt]
  omega

theorem groupStart_lt {j k : ℕ} (hjk : j < k) (hk : k ≤ m.operations.length) :
    m.groupStart c region j < m.groupStart c region k := by
  induction hjk with
  | refl => exact groupStart_lt_succ c region hk
  | step _ ih => exact Nat.lt_trans (ih (Nat.le_of_lt hk)) (groupStart_lt_succ c region hk)

theorem groupStart_le {j k : ℕ} (hjk : j ≤ k) (hk : k ≤ m.operations.length) :
    m.groupStart c region j ≤ m.groupStart c region k := by
  rcases Nat.lt_or_eq_of_le hjk with hlt | rfl
  · exact Nat.le_of_lt (groupStart_lt c region hlt hk)
  · exact Nat.le_refl _

/-- The instrumented body up to a group. -/
theorem take_code (j : ℕ) : (m.code c region).take (m.groupStart c region j) =
    (Tile.code (m.opening c) ((m.tiles c region).take j)).map
      (Emitted.settled (m.landing c region)) := by
  have hsplit : Tile.code (m.opening c) (m.tiles c region) =
      Tile.code (m.opening c) ((m.tiles c region).take j) ++
        ((m.tiles c region).drop j).flatMap Tile.emitted := by
    conv_lhs => rw [← List.take_append_drop j (m.tiles c region)]
    rw [Tile.code, List.flatMap_append, ← List.append_assoc]
    rfl
  rw [code, hsplit, List.map_append, groupStart, List.take_left' (by rw [List.length_map])]

/-- The instrumented body begins with the start of the test. -/
theorem take_code_zero : (m.code c region).take (m.groupStart c region 0) =
    [loadString m.declaringType.name, call c.api.startTest] := by
  rw [take_code, List.take_zero, Tile.code, List.flatMap_nil, List.append_nil]
  exact Emitted.map_settled_plain _ [loadString m.declaringType.name, call c.api.startTest]

/-- The offset of a group is the sum of the sizes in front of it. -/
theorem groupOffset_eq (j : ℕ) : m.groupOffset c region j =
    .capped (weight ((m.code c region).take (m.groupStart c region j))) := by
  rw [take_code, Emitted.weight_map_settled, groupOffset]

/-! ### The region -/

/-- The region of the instrumented body. -/
def movedRegion (m : MethodDefinition) (c : InstrumentConfig) (region : ExceptionRegion) :
    ExceptionRegion :=
  (Layout.ofDraft (m.opening c) (m.tiles c region)).moveRegion region

/-- A range that starts at an operation starts at the first operation of its group. -/
theorem start_offset (hm : m.operations.Ordered) {j : ℕ} {o : Operation}
    (hj : m.operations[j]? = some o) :
    (Layout.ofDraft (m.opening c) (m.tiles c region)).start o.offset =
      .capped (weight ((m.code c region).take (m.groupStart c region j))) := by
  obtain ⟨t, ht⟩ := getElem?_treatments c region hj
  rw [← groupOffset_eq]
  exact Layout.start_draft (nodup_origins c region hm) (getElem?_tiles c region ht)

/-- A range that ends at an operation ends at the last operation of its group. -/
theorem stop_offset (hm : m.operations.Ordered) {j : ℕ} {o : Operation}
    (hj : m.operations[j]? = some o) :
    (Layout.ofDraft (m.opening c) (m.tiles c region)).stop o.offset =
      .capped (weight ((m.code c region).take (m.groupStart c region (j + 1) - 1))) := by
  obtain ⟨t, ht⟩ := getElem?_treatments c region hj
  have htile := getElem?_tiles c region ht
  have htake : (m.code c region).take (m.groupStart c region (j + 1) - 1) =
      (Tile.code (m.opening c) ((m.tiles c region).take (j + 1))).dropLast.map
        (Emitted.settled (m.landing c region)) := by
    have hlength : ((m.code c region).take (m.groupStart c region (j + 1))).length =
        m.groupStart c region (j + 1) := by
      rw [take_code, List.length_map, groupStart]
    rw [List.map_dropLast, ← take_code, List.dropLast_eq_take, List.take_take, hlength,
      Nat.min_eq_left (Nat.sub_le _ _)]
  rw [htake, Emitted.weight_map_settled, code_take_succ _ htile,
    List.dropLast_append_of_ne_nil (by simp)]
  exact Layout.stop_draft (nodup_origins c region hm) htile

/-! ### Targets -/

theorem landing_codeEnd : m.landing c region .codeEnd = .capped (weight (m.code c region)) := by
  rw [code, Emitted.weight_map_settled, landing]

theorem relocate_offset (hm : m.operations.Ordered) {j : ℕ} {p : Operation}
    (hj : m.operations[j]? = some p) :
    m.relocate c region p.offset = m.groupOffset c region j := by
  have hcontains := (contains_index_iff hm).2 ⟨p, List.mem_of_getElem? hj, rfl⟩
  rw [relocate, Relocation.goal?, if_pos hcontains, Option.map_some, Option.getD_some,
    landing_group c region hm hj]

theorem relocate_codeSize (hm : m.operations.Ordered)
    (hend : ∀ p ∈ m.operations, p.offset ≠ m.codeSize) :
    m.relocate c region m.codeSize = .capped (weight (m.code c region)) := by
  have hcontains : ¬ m.relocation.index.contains m.codeSize = true := by
    rw [contains_index_iff hm]
    rintro ⟨p, hp, hoffset⟩
    exact hend p hp hoffset
  have hcodeEnd : m.codeSize = m.relocation.codeEnd := rfl
  rw [relocate, Relocation.goal?, if_neg hcontains, if_pos hcodeEnd, Option.map_some,
    Option.getD_some, landing_codeEnd]

theorem relocate_nowhere (hm : m.operations.Ordered) {target : Offset}
    (hnone : ∀ p ∈ m.operations, p.offset ≠ target) (hend : target ≠ m.codeSize) :
    m.relocate c region target = target := by
  have hcontains : ¬ m.relocation.index.contains target = true := by
    rw [contains_index_iff hm]
    rintro ⟨p, hp, hoffset⟩
    exact hnone p hp hoffset
  have hcodeEnd : ¬ target = m.relocation.codeEnd := hend
  rw [relocate, Relocation.goal?, if_neg hcontains, if_neg hcodeEnd]
  rfl

end MethodDefinition

end BuildDrift
