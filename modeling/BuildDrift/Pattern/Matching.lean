import BuildDrift.Pattern.Expression

/-!
# Matching by moving marks

An expression is matched by carrying marks through it. A mark on a character set says that some
way through the expression has just read a character there. Reading one more character moves every
mark to the sets that can follow, all at once, so the work per character is bounded by the size
of the expression whatever the text.

## Main definitions

* `Marked`: an expression with marks, repetitions written out.
* `Marked.nullable`, `Marked.final`, `Marked.shift`: what the marks say at a position, and how they
  move.
* `Marked.occursIn`: whether some part of a text matches.
-/

namespace BuildDrift.Pattern

/-- An expression with marks on its character sets. -/
inductive Marked where
  /-- The empty text. -/
  | empty
  /-- No text. -/
  | never
  /-- One character of a set, and whether it has just been read. -/
  | chars (mark : Bool) (set : CodePointSet)
  /-- A condition on the position. -/
  | look (condition : Look)
  /-- One after the other. -/
  | seq (first second : Marked)
  /-- One of two. -/
  | alt (first second : Marked)
  /-- Any number of times. -/
  | star (body : Marked)
  deriving Inhabited

namespace Marked

/-! ### What marks say and how they move -/

/-- Whether the expression matches the empty text at a position. -/
def nullable (s : Surroundings) : Marked → Bool
  | empty => true
  | never => false
  | chars _ _ => false
  | look condition => condition.holds s
  | seq a b => nullable s a && nullable s b
  | alt a b => nullable s a || nullable s b
  | star _ => true

/-- Whether a way through the expression that has read characters can end at a position. -/
def final (s : Surroundings) : Marked → Bool
  | chars mark _ => mark
  | seq a b => final s b || (final s a && nullable s b)
  | alt a b => final s a || final s b
  | star a => final s a
  | _ => false

/-- The marks after one more character, from the marks at the position in front of it. `enter`
says whether a way through the expression may begin at that position. -/
def shift (s : Surroundings) (c : Char) (enter : Bool) : Marked → Marked
  | chars _ set => chars (enter && set.contains c) set
  | seq a b => seq (shift s c enter a) (shift s c ((enter && nullable s a) || final s a) b)
  | alt a b => alt (shift s c enter a) (shift s c enter b)
  | star a => star (shift s c (enter || final s a) a)
  | m => m

/-- Whether a match ends at the current position or later, when one may begin anywhere. -/
def occurs (m : Marked) (before : Option Char) : List Char → Bool
  | [] =>
    let s : Surroundings := ⟨before, none⟩
    m.nullable s || m.final s
  | c :: cs =>
    let s : Surroundings := ⟨before, some c⟩
    m.nullable s || m.final s || occurs (m.shift s c true) (some c) cs

/-! ### Writing an expression out -/

/-- Neighbours combined in pairs. -/
def pairUp (combine : Marked → Marked → Marked) : List Marked → List Marked
  | a :: b :: rest => combine a b :: pairUp combine rest
  | rest => rest

/-- The list combined into one expression of small depth. -/
def gather (combine : Marked → Marked → Marked) (unit : Marked) : Nat → List Marked → Marked
  | _, [] => unit
  | _, [m] => m
  | 0, m :: _ => m
  | fuel + 1, ms => gather combine unit fuel (pairUp combine ms)

/-- The expression a number of times in a row, with small depth. -/
def power (m : Marked) (n : Nat) : Marked :=
  if n = 0 then empty
  else if n = 1 then m
  else
    let half := power m (n / 2)
    if n % 2 = 0 then seq half half else seq m (seq half half)
termination_by n

mutual

/-- An expression without marks, with its repetitions written out. -/
def ofExpression : Expression → Marked
  | .empty => empty
  | .text cs => gather seq empty cs.length (cs.map fun c => chars false (.single c))
  | .chars _ set => chars false set
  | .look condition => look condition
  | .group _ body => ofExpression body
  | .seq parts =>
    let ms := ofExpressions parts
    gather seq empty ms.length ms
  | .alt choices =>
    let ms := ofExpressions choices
    gather alt never ms.length ms
  | .times body min max _ =>
    let m := ofExpression body
    match max with
    | none => seq (power m min) (star m)
    | some max => seq (power m min) (power (alt m empty) (max - min))

/-- The expressions of a list, written out. -/
def ofExpressions : List Expression → List Marked
  | [] => []
  | e :: rest => ofExpression e :: ofExpressions rest

end

end Marked

/-- Whether some part of a text matches, for an expression that is written out. -/
def Marked.occursIn (m : Marked) (text : String) : Bool :=
  m.occurs none text.toList

end BuildDrift.Pattern
