import BuildDrift.Pattern.Expression
import Mathlib.Logic.Relation

/-!
# What an expression matches

What an expression matches in a text is a relation between the position where a match begins and
the one where it ends. Parts in a row stand for the composition of their relations, choices for the
union, and repetitions for powers. Nothing here says how a match is found.

## Main definitions

* `Position`: a position in a text, and `Position.Reads`, reading one character.
* `Extent`: a relation between positions; `Extent.row`, `Extent.anyOf`, `Extent.power`.
* `Extent.Forward`, `Extent.moved`: matches end where they begin or behind; those that move.
* `Expression.extent`: the matches of an expression.
* `Expression.OccursIn`: some part of a text matches.

## Main results

* `Position.Onward.antisymm`: what goes on never comes back.
* `Extent.exists_power_iff`: any number of times is the reflexive transitive closure.
* `Extent.moved_comp_iff`, `Extent.moved_star_iff`: what moves first in a row or a repetition.
-/

namespace BuildDrift.Pattern

open Relation (Comp ReflTransGen)

/-! ### Positions -/

/-- A position in a text. -/
structure Position where
  /-- The character in front, if the position is not the start. -/
  before : Option Char
  /-- The characters behind. -/
  ahead : List Char

namespace Position

/-- The start of a text. -/
def startOf (text : String) : Position := ⟨none, text.toList⟩

/-- The characters around a position. -/
def surroundings (p : Position) : Surroundings := ⟨p.before, p.ahead.head?⟩

/-- From one position to the next over a character of a kind. -/
inductive Reads (kind : Char → Prop) : Position → Position → Prop where
  /-- The character is behind the first position and in front of the second. -/
  | read {before : Option Char} {c : Char} {cs : List Char} :
      kind c → Reads kind ⟨before, c :: cs⟩ ⟨some c, cs⟩

/-- The second position is the first or stands anywhere behind it. -/
def Leads : Position → Position → Prop :=
  ReflTransGen (Reads fun _ => True)

theorem reads_cons_iff {kind : Char → Prop} {before : Option Char} {c : Char} {cs : List Char}
    {q : Position} : Reads kind ⟨before, c :: cs⟩ q ↔ kind c ∧ q = ⟨some c, cs⟩ := by
  constructor
  · rintro ⟨h⟩
    exact ⟨h, rfl⟩
  · rintro ⟨h, rfl⟩
    exact .read h

theorem not_reads_nil {kind : Char → Prop} {before : Option Char} {q : Position} :
    ¬ Reads kind ⟨before, []⟩ q := nofun

/-- Nothing stands behind the end of a text. -/
theorem leads_nil_iff {before : Option Char} {q : Position} :
    Leads ⟨before, []⟩ q ↔ q = ⟨before, []⟩ :=
  Relation.reflTransGen_iff_eq fun _ => not_reads_nil

/-- Only the start of a text has no character in front. -/
theorem Leads.eq_of_before {p q : Position} (h : p.Leads q) (hq : q.before = none) : q = p := by
  obtain h | ⟨r, -, hr⟩ := ReflTransGen.cases_tail h
  · exact h
  · obtain ⟨-⟩ := hr
    cases hq

/-- The second position is the first, or fewer characters are left there. -/
def Onward (p q : Position) : Prop := q = p ∨ q.ahead.length < p.ahead.length

theorem Onward.trans {p q r : Position} (h : p.Onward q) (h' : q.Onward r) : p.Onward r := by
  obtain rfl | h := h
  · exact h'
  · obtain rfl | h' := h'
    · exact .inr h
    · exact .inr (Nat.lt_trans h' h)

/-- Going on does not lead back to a position that has been left. -/
theorem Onward.antisymm {p q : Position} (h : p.Onward q) (h' : q.Onward p) : q = p := by
  obtain h | h := h
  · exact h
  · obtain h' | h' := h'
    · exact h'.symm
    · exact absurd h' (Nat.lt_asymm h)

theorem leads_cons_iff {before : Option Char} {c : Char} {cs : List Char} {q : Position} :
    Leads ⟨before, c :: cs⟩ q ↔ q = ⟨before, c :: cs⟩ ∨ Leads ⟨some c, cs⟩ q := by
  constructor
  · intro h
    obtain h | ⟨r, hr, h⟩ := ReflTransGen.cases_head h
    · exact .inl h.symm
    · obtain ⟨-, rfl⟩ := reads_cons_iff.mp hr
      exact .inr h
  · rintro (rfl | h)
    · exact .refl
    · exact .head (.read trivial) h

end Position

open Position (Reads)

/-! ### Relations between positions -/

/-- A relation between the positions where matches begin and where they end. -/
abbrev Extent := Position → Position → Prop

namespace Extent

/-- One after the other. -/
def row (rs : List Extent) : Extent := rs.foldr Comp Eq

/-- No match. -/
def never : Extent := fun _ _ => False

/-- One of two. -/
def either (r s : Extent) : Extent := fun p q => r p q ∨ s p q

/-- One of several. -/
def anyOf (rs : List Extent) : Extent := rs.foldr either never

/-- A number of times in a row. -/
def power (r : Extent) : Nat → Extent
  | 0 => Eq
  | n + 1 => Comp r (r.power n)

/-- At a position that meets a condition. -/
def look (condition : Look) : Extent := fun p q => condition.holds p.surroundings ∧ p = q

@[simp] theorem row_nil : row [] = Eq := rfl

@[simp] theorem row_cons (r : Extent) (rs : List Extent) :
    row (r :: rs) = Comp r (row rs) := rfl

theorem row_append (rs ts : List Extent) : row (rs ++ ts) = Comp (row rs) (row ts) := by
  induction rs with
  | nil => exact Relation.eq_comp.symm
  | cons r rs ih => rw [List.cons_append, row_cons, ih, row_cons, Relation.comp_assoc]

theorem either_assoc (r s t : Extent) : either (either r s) t = either r (either s t) := by
  funext p q
  exact propext or_assoc

theorem either_never (r : Extent) : either r never = r := by
  funext p q
  exact propext (or_iff_left id)

theorem power_one (r : Extent) : r.power 1 = r := Relation.comp_eq

theorem power_add (r : Extent) (m n : Nat) :
    r.power (m + n) = Comp (r.power m) (r.power n) := by
  induction m with
  | zero => rw [Nat.zero_add, power, Relation.eq_comp]
  | succ m ih => rw [Nat.succ_add, power, ih, power, Relation.comp_assoc]

/-- Any number of times. -/
theorem exists_power_iff {r : Extent} {p q : Position} :
    (∃ n, r.power n p q) ↔ ReflTransGen r p q := by
  constructor
  · rintro ⟨n, h⟩
    induction n generalizing p with
    | zero => exact h ▸ .refl
    | succ n ih =>
      obtain ⟨s, hs, h⟩ := h
      exact .head hs (ih h)
  · intro h
    induction h using ReflTransGen.head_induction_on with
    | refl => exact ⟨0, rfl⟩
    | head hs _ ih =>
      obtain ⟨n, h⟩ := ih
      exact ⟨n + 1, _, hs, h⟩

/-! ### Matches do not lead back -/

/-- Every match ends where it begins or behind. -/
def Forward (r : Extent) : Prop :=
  ∀ ⦃p q⦄, r p q → p.Onward q

theorem forward_eq : Forward Eq := fun _ _ h => .inl h.symm

theorem forward_reads (kind : Char → Prop) : Forward (Reads kind) := by
  rintro _ _ ⟨_⟩
  exact .inr (Nat.lt_succ_self _)

theorem forward_never : Forward never := fun _ _ h => h.elim

theorem Forward.either {r s : Extent} (hr : r.Forward) (hs : s.Forward) :
    Forward (either r s) :=
  fun _ _ h => h.elim (hr ·) (hs ·)

theorem Forward.comp {r s : Extent} (hr : r.Forward) (hs : s.Forward) :
    Forward (Comp r s) :=
  fun _ _ ⟨_, h, h'⟩ => (hr h).trans (hs h')

theorem Forward.reflTransGen {r : Extent} (hr : r.Forward) :
    Forward (ReflTransGen r) := by
  intro p q h
  induction h with
  | refl => exact .inl rfl
  | tail _ hs ih => exact ih.trans (hr hs)

/-- A composition that leads back to where it began has not moved in between. -/
theorem comp_self_iff {r s : Extent} (hr : r.Forward) (hs : s.Forward) {p : Position} :
    Comp r s p p ↔ r p p ∧ s p p := by
  constructor
  · rintro ⟨q, h, h'⟩
    obtain rfl := (hr h).antisymm (hs h')
    exact ⟨h, h'⟩
  · rintro ⟨h, h'⟩
    exact ⟨p, h, h'⟩

/-! ### Matches that take characters -/

/-- The matches that take characters. -/
def moved (r : Extent) : Extent := fun p q => q ≠ p ∧ r p q

/-- A composition that moves does so in its first part or, if that part stays, in its second. -/
theorem moved_comp_iff {r s : Extent} (hr : r.Forward) (hs : s.Forward) {p q : Position} :
    q ≠ p ∧ Comp r s p q ↔ Comp (moved r) s p q ∨ q ≠ p ∧ r p p ∧ s p q := by
  constructor
  · rintro ⟨hq, m, h, h'⟩
    by_cases hm : m = p
    · subst hm
      exact .inr ⟨hq, h, h'⟩
    · exact .inl ⟨m, ⟨hm, h⟩, h'⟩
  · rintro (⟨m, ⟨hm, h⟩, h'⟩ | ⟨hq, h, h'⟩)
    · refine ⟨?_, m, h, h'⟩
      rintro rfl
      exact hm ((hr h).antisymm (hs h'))
    · exact ⟨hq, p, h, h'⟩

/-- A repetition that moves is a round that moves with a repetition behind it. -/
theorem moved_star_iff {r : Extent} (hr : r.Forward) {p q : Position} :
    q ≠ p ∧ ReflTransGen r p q ↔ Comp (moved r) (ReflTransGen r) p q := by
  constructor
  · rintro ⟨hq, h⟩
    -- rounds that have not moved are passed over
    induction h using ReflTransGen.head_induction_on with
    | refl => exact absurd rfl hq
    | @head p m hpm hmq ih =>
      by_cases hm : m = p
      · exact hm ▸ ih (hm ▸ hq)
      · exact ⟨m, ⟨hm, hpm⟩, hmq⟩
  · rintro ⟨m, ⟨hm, hfirst⟩, hrest⟩
    refine ⟨?_, .head hfirst hrest⟩
    rintro rfl
    exact hm ((hr hfirst).antisymm (hr.reflTransGen hrest))

end Extent

/-! ### Expressions -/

namespace Expression

mutual

/-- The matches of an expression. Where the greatest number of times is below the least, the least
counts. -/
def extent : Expression → Extent
  | empty => Eq
  | text cs => .row (cs.map fun c => Reads (· = c))
  | chars _ set => Reads fun c => set.contains c
  | look condition => .look condition
  | group _ body => extent body
  | seq parts => .row (extents parts)
  | alt choices => .anyOf (extents choices)
  | times body min max _ => fun p q =>
    ∃ n, min ≤ n ∧ (∀ m ∈ max, n ≤ Nat.max min m) ∧ (extent body).power n p q

/-- The matches of the expressions of a list. -/
def extents : List Expression → List Extent
  | [] => []
  | e :: rest => extent e :: extents rest

end

theorem extents_eq_map (es : List Expression) : extents es = es.map extent := by
  induction es with
  | nil => rfl
  | cons e es ih => rw [extents, ih, List.map_cons]

/-- Some part of a text matches. -/
def OccursIn (e : Expression) (text : String) : Prop :=
  ∃ p q, (Position.startOf text).Leads p ∧ e.extent p q

end Expression

end BuildDrift.Pattern
