import BuildDrift.Pattern.Glob
import BuildDrift.Pattern.Parser
import Mathlib.Tactic.FinCases

/-!
# Reading a translated wildcard pattern

The text of the regular expression for a wildcard pattern is read back item by item. No character
of a pattern is taken for anything but itself: those that have a meaning of their own stand behind
a backslash, and none that follows a star is a question mark, which would change the star.

## Main definitions

* `Glob.itemExpression`, `Glob.toExpression`: the expressions for an item and for a whole pattern.

## Main results

* `Reading.step_escaped`: a character of a pattern is read as itself.
* `Glob.run_itemsText`: one item after the other is read.
* `Glob.parse?_translation`: the translation of a pattern is read as the expression for it.
-/

namespace BuildDrift.Pattern

/-! ### Expressions for patterns -/

namespace Glob

/-- One character other than a line feed. -/
def anyChar : Expression :=
  .chars .characters (CodePointSet.single '\n').complement

/-- The expression for an item. -/
def itemExpression : GlobItem → Expression
  | .run => .times anyChar 0 none false
  | .one => anyChar
  | .char c => .ofChar c

/-- The expression for a pattern. -/
def toExpression (g : Glob) : Expression :=
  .row (.look .start :: g.map itemExpression ++ [.look .stop])

theorem complement_newLine :
    (CodePointSet.single '\n').complement = ⟨[(0, 9), (11, CodePointSet.last)]⟩ := by
  rw [CodePointSet.complement, CodePointSet.normalize, CodePointSet.single, CodePointSet.range,
    List.mergeSort_singleton]
  rfl

theorem repetition_anyChar : anyChar.repetition 0 none false = itemExpression .run := by
  have hblank : anyChar.isBlank = false := by
    rw [anyChar, complement_newLine]
    decide
  rw [Expression.repetition, hblank]
  rfl

/-- The part that is read for an item; a repetition nests. -/
def itemPart : GlobItem → Part
  | .run => ⟨itemExpression .run, 1, true⟩
  | item => ⟨itemExpression item, 0, true⟩

end Glob

/-! ### Steps of a reading -/

namespace Reading

/-- A reading outside every group, with no flag set and a single choice. -/
def plain (parts : List Part) : Reading := { level := ⟨[], parts⟩ }

theorem run_of_step {fuel : Nat} {parts parts' : List Part} {cs rest : List Char}
    (h : (plain parts).step cs = some (plain parts', rest)) :
    run (fuel + 1) (plain parts) cs = run fuel (plain parts') rest := by
  cases cs with
  | nil => cases h
  | cons c cs =>
    have hrun : run (fuel + 1) (plain parts) (c :: cs) =
        ((plain parts).step (c :: cs)).bind fun next => run fuel next.1 next.2 := rfl
    rw [hrun, h]
    rfl

theorem run_nil (fuel : Nat) (parts : List Part) :
    run fuel (plain parts) [] = some (Level.total ⟨[], parts⟩) := by
  rw [run]
  · rfl
  · rfl

/-- A character of a pattern is read as itself. -/
theorem step_escaped (parts : List Part) (c : Char) (rest : List Char) :
    (plain parts).step (Glob.escaped c ++ rest) =
      some (plain (⟨.ofChar c, 0, true⟩ :: parts), rest) := by
  rw [Glob.escaped]
  split
  next h =>
    -- behind a backslash, each of these characters is itself
    rw [List.contains_iff_mem] at h
    fin_cases h <;> rfl
  next h =>
    rw [List.contains_iff_mem] at h
    have hstep : (plain parts).step (c :: rest) =
        some ((plain parts).push (charExpression (plain parts).flags c), rest) := by
      apply step.eq_14 <;> rintro rfl <;> exact h (by decide)
    exact hstep

theorem step_dot (parts : List Part) (rest : List Char) :
    (plain parts).step ('.' :: rest) = some (plain (Glob.itemPart .one :: parts), rest) := rfl

/-- A star makes a run of the dot in front of it, unless a question mark follows. -/
theorem step_star (parts : List Part) {rest : List Char} (h : rest.head? ≠ some '?') :
    (plain (Glob.itemPart .one :: parts)).step ('*' :: rest) =
      some (plain (Glob.itemPart .run :: parts), rest) := by
  have hlazy : takeLazy (plain (Glob.itemPart .one :: parts)).flags rest = (false, rest) :=
    takeLazy.eq_2 _ _ fun rest' h' => h (by rw [h']; rfl)
  have hstep : (plain (Glob.itemPart .one :: parts)).step ('*' :: rest) =
      some (plain (⟨Glob.anyChar.repetition 0 none false, 1, true⟩ :: parts), rest) := by
    rw [step, repeatLast, hlazy]
    rfl
  rw [hstep, Glob.repetition_anyChar]
  rfl

end Reading

namespace Glob

/-- The text of some items and of the end behind them. -/
def itemsText (g : Glob) : List Char := g.flatMap itemText ++ ['$']

theorem itemsText_cons (item : GlobItem) (g : Glob) :
    itemsText (item :: g) = itemText item ++ itemsText g := by
  rw [itemsText, List.flatMap_cons, List.append_assoc]
  rfl

theorem length_escaped_pos (c : Char) : 0 < (escaped c).length := by
  rw [escaped]
  split <;> exact Nat.succ_pos _

/-- No item begins with a question mark. -/
theorem head?_itemsText (g : Glob) : (itemsText g).head? ≠ some '?' := by
  cases g with
  | nil => decide
  | cons item rest =>
    rw [itemsText_cons]
    cases item with
    | run | one => exact fun h => absurd (Option.some.inj h) (by decide)
    | char c =>
      rw [itemText, escaped]
      split
      next => exact fun h => absurd (Option.some.inj h) (by decide)
      next h =>
        intro hc
        obtain rfl : c = '?' := Option.some.inj hc
        exact h rfl

/-- One item after the other is read, up to the end. -/
theorem run_itemsText (g : Glob) (parts : List Part) (fuel : Nat)
    (hfuel : (itemsText g).length ≤ fuel) :
    Reading.run fuel (.plain parts) (itemsText g) =
      some (Level.total ⟨[], ⟨.look .stop, 0, true⟩ :: ((g.map itemPart).reverse ++ parts)⟩) := by
  induction g generalizing parts fuel with
  | nil =>
    obtain ⟨fuel, rfl⟩ := Nat.exists_eq_add_of_le' hfuel
    exact Reading.run_nil fuel (⟨.look .stop, 0, true⟩ :: parts)
  | cons item rest ih =>
    rw [itemsText_cons] at hfuel ⊢
    rw [List.length_append] at hfuel
    rw [List.map_cons, List.reverse_cons, List.append_assoc, List.singleton_append]
    cases item with
    | run =>
      obtain ⟨fuel, rfl⟩ := Nat.exists_eq_add_of_le' ((Nat.le_add_right 2 _).trans hfuel)
      refine (Reading.run_of_step (Reading.step_dot parts _)).trans ?_
      refine (Reading.run_of_step (Reading.step_star parts (head?_itemsText rest))).trans ?_
      exact ih _ fuel (by rw [itemText, List.length_cons, List.length_singleton] at hfuel; omega)
    | one =>
      obtain ⟨fuel, rfl⟩ := Nat.exists_eq_add_of_le' ((Nat.le_add_right 1 _).trans hfuel)
      refine (Reading.run_of_step (Reading.step_dot parts _)).trans ?_
      exact ih _ fuel (by rw [itemText, List.length_singleton] at hfuel; omega)
    | char c =>
      have hpos := length_escaped_pos c
      rw [itemText] at hfuel ⊢
      obtain ⟨fuel, rfl⟩ := Nat.exists_eq_add_of_le' (show 1 ≤ fuel by omega)
      rw [Reading.run_of_step (Reading.step_escaped parts c _)]
      exact ih _ fuel (by omega)

/-! ### The whole pattern -/

/-- The parts that are read for a pattern, last first. -/
def parts (g : Glob) : List Part :=
  ⟨.look .stop, 0, true⟩ :: ((g.map itemPart).reverse ++ [⟨.look .start, 0, true⟩])

theorem depth_le_of_mem_parts (g : Glob) : ∀ part ∈ g.parts, part.depth ≤ 1 := by
  intro part hpart
  rw [parts, List.mem_cons, List.mem_append, List.mem_reverse, List.mem_map,
    List.mem_singleton] at hpart
  obtain rfl | ⟨item, -, rfl⟩ | rfl := hpart
  · exact Nat.zero_le 1
  · cases item with
    | run => exact le_rfl
    | one | char _ => exact Nat.zero_le 1
  · exact Nat.zero_le 1

theorem map_expression_parts (g : Glob) :
    g.parts.reverse.map Part.expression =
      .look .start :: g.map itemExpression ++ [.look .stop] := by
  have hitem : Part.expression ∘ itemPart = itemExpression := by
    funext item
    cases item <;> rfl
  rw [parts, List.reverse_cons, List.reverse_append, List.reverse_reverse, List.map_append,
    List.map_append, List.map_map, hitem]
  rfl

/-- Several parts are joined into a row that nests one level deeper. -/
theorem join_row {parts : List Part} (hlength : 2 ≤ parts.length)
    (hdepth : ∀ part ∈ parts, part.depth ≤ 1) :
    ∃ depth ≤ 2, Level.join .row parts =
      ⟨.row (parts.reverse.map Part.expression), depth, true⟩ := by
  obtain ⟨first, second, rest, rfl⟩ : ∃ a b l, parts = a :: b :: l := by
    match parts, hlength with
    | a :: b :: l, _ => exact ⟨a, b, l, rfl⟩
  refine ⟨_, Nat.succ_le_succ ?_, rfl⟩
  exact List.foldlRecOn (motive := fun d => d ≤ 1) _ _ (Nat.zero_le 1)
    fun d hd part hpart => max_le hd (hdepth part hpart)

/-- The translation of a pattern is read as the expression for it. -/
theorem parse?_translation (g : Glob) :
    Expression.parse? g.translation = some g.toExpression := by
  have hrun : Reading.run g.translation.toList.length (.plain []) g.translation.toList =
      some (Level.join .row g.parts) := by
    rw [translation, String.toList_ofList]
    have hstart : (Reading.plain []).step ('^' :: itemsText g) =
        some (.plain [⟨.look .start, 0, true⟩], itemsText g) := rfl
    exact (Reading.run_of_step hstart).trans (run_itemsText g _ _ le_rfl)
  have hlength : 2 ≤ g.parts.length := by
    rw [parts, List.length_cons, List.length_append, List.length_singleton]
    omega
  obtain ⟨depth, hdepth, hjoin⟩ := join_row hlength g.depth_le_of_mem_parts
  have hallowed : depth ≤ greatestDepth := hdepth.trans (by decide)
  rw [hjoin, map_expression_parts] at hrun
  rw [Expression.parse?]
  refine (congrArg (Option.bind · _) hrun).trans ?_
  rw [Option.bind_some, if_pos hallowed, toExpression]

end Glob

end BuildDrift.Pattern
