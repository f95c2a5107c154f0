import BuildDrift.Pattern.Matching
import BuildDrift.Proofs.Pattern.Extent

/-!
# What marks stand for

A mark on a character set stands for a match that has just read a character there. Carrying marks
through an expression is right because of what a step does to them: after one more character, the
marks stand for the matches that the old marks can go on with and, where a match may begin, for
those that begin in front of the character.

## Main definitions

* `Marked.extent`: the matches of an expression, marks aside.
* `Marked.resumption`: where the matches that the marks stand for can end.
* `Marked.continuation`: the same, with the matches that may begin at the position.
* `Marked.Finds`: whether there is a match from a position on.

## Main results

* `Marked.nullable_iff`, `Marked.final_iff`: the answers at one position.
* `Marked.resumption_shift`: what one more character does to the marks.
* `Marked.occurs_iff`: the search finds a match if there is one.
-/

namespace BuildDrift.Pattern.Marked

open Position (Reads Leads)
open Extent (comp_self_iff moved moved_comp_iff moved_star_iff)
open Relation (Comp ReflTransGen)

/-! ### Matches and marks -/

/-- The matches of an expression, whatever its marks. -/
def extent : Marked → Extent
  | empty => Eq
  | never => .never
  | chars _ set => Reads fun c => set.contains c
  | look condition => .look condition
  | seq a b => Comp (extent a) (extent b)
  | alt a b => .either (extent a) (extent b)
  | star a => ReflTransGen (extent a)

/-- Where the matches can end that the marks stand for, from the position where the marks are. -/
def resumption : Marked → Extent
  | chars mark _ => fun p q => mark ∧ p = q
  | seq a b => .either (Comp (resumption a) (extent b)) (resumption b)
  | alt a b => .either (resumption a) (resumption b)
  | star a => Comp (resumption a) (ReflTransGen (extent a))
  | _ => .never

/-- Where the matches can end that the marks stand for and, if one may, that begin at the
position. -/
def continuation (enter : Bool) (m : Marked) : Extent :=
  fun p q => m.resumption p q ∨ enter ∧ m.extent p q

theorem forward_extent (m : Marked) : m.extent.Forward := by
  induction m with
  | empty => exact Extent.forward_eq
  | never => exact Extent.forward_never
  | chars _ set => exact Extent.forward_reads _
  | look condition => exact fun _ _ h => .inl h.2.symm
  | seq a b iha ihb => exact iha.comp ihb
  | alt a b iha ihb => exact iha.either ihb
  | star a ih => exact ih.reflTransGen

theorem forward_resumption (m : Marked) : m.resumption.Forward := by
  induction m with
  | chars _ _ => exact fun _ _ h => .inl h.2.symm
  | seq a b iha ihb => exact (iha.comp b.forward_extent).either ihb
  | alt a b iha ihb => exact iha.either ihb
  | star a ih => exact ih.comp a.forward_extent.reflTransGen
  | empty | never | look _ => exact Extent.forward_never

/-! ### At one position -/

theorem nullable_iff (m : Marked) (p : Position) :
    m.nullable p.surroundings = true ↔ m.extent p p := by
  induction m with
  | empty => exact iff_of_true rfl rfl
  | never => exact iff_of_false nofun id
  | chars _ set =>
    refine iff_of_false nofun fun h => ?_
    cases p
    cases h
  | look condition => exact (and_iff_left rfl).symm
  | seq a b iha ihb =>
    rw [nullable, Bool.and_eq_true, iha, ihb]
    exact (comp_self_iff a.forward_extent b.forward_extent).symm
  | alt a b iha ihb =>
    rw [nullable, Bool.or_eq_true, iha, ihb]
    rfl
  | star a _ => exact iff_of_true rfl .refl

theorem final_iff (m : Marked) (p : Position) :
    m.final p.surroundings = true ↔ m.resumption p p := by
  induction m with
  | chars mark _ => exact (and_iff_left rfl).symm
  | seq a b iha ihb =>
    rw [final, Bool.or_eq_true, Bool.and_eq_true, iha, ihb, nullable_iff,
      ← comp_self_iff a.forward_resumption b.forward_extent, or_comm]
    rfl
  | alt a b iha ihb =>
    rw [final, Bool.or_eq_true, iha, ihb]
    rfl
  | star a ih =>
    rw [final, ih, resumption, comp_self_iff a.forward_resumption a.forward_extent.reflTransGen]
    exact (and_iff_left .refl).symm
  | empty | never | look _ => exact iff_of_false nofun id

/-! ### One more character -/

@[simp] theorem extent_shift (s : Surroundings) (c : Char) (enter : Bool) (m : Marked) :
    (m.shift s c enter).extent = m.extent := by
  induction m generalizing enter with
  | seq a b iha ihb => rw [shift, extent, extent, iha, ihb]
  | alt a b iha ihb => rw [shift, extent, extent, iha, ihb]
  | star a ih => rw [shift, extent, extent, ih]
  | empty | never | chars _ _ | look _ => rfl

section Shift

variable {before : Option Char} {c : Char} {cs : List Char} {enter : Bool} {p q r : Position}

theorem forward_continuation (m : Marked) : (m.continuation enter).Forward :=
  fun _ _ h => h.elim (m.forward_resumption ·) fun h => m.forward_extent h.2

theorem continuation_seq {a b : Marked} :
    (seq a b).continuation enter p q ↔
      Comp (a.continuation enter) b.extent p q ∨ b.resumption p q := by
  constructor
  · rintro ((⟨r, h, h'⟩ | h) | ⟨he, r, h, h'⟩)
    · exact .inl ⟨r, .inl h, h'⟩
    · exact .inr h
    · exact .inl ⟨r, .inr ⟨he, h⟩, h'⟩
  · rintro (⟨r, h | ⟨he, h⟩, h'⟩ | h)
    · exact .inl (.inl ⟨r, h, h'⟩)
    · exact .inr ⟨he, r, h, h'⟩
    · exact .inl (.inr h)

theorem comp_moved_continuation {m : Marked} {s : Extent} :
    Comp (moved (m.continuation enter)) s p q ↔
      Comp (moved m.resumption) s p q ∨ enter ∧ Comp (moved m.extent) s p q := by
  constructor
  · rintro ⟨r, ⟨hr, h | ⟨he, h⟩⟩, h'⟩
    · exact .inl ⟨r, ⟨hr, h⟩, h'⟩
    · exact .inr ⟨he, r, ⟨hr, h⟩, h'⟩
  · rintro (⟨r, ⟨hr, h⟩, h'⟩ | ⟨he, r, ⟨hr, h⟩, h'⟩)
    · exact ⟨r, ⟨hr, .inl h⟩, h'⟩
    · exact ⟨r, ⟨hr, .inr ⟨he, h⟩⟩, h'⟩

/-- Whether a second part may begin where a first part may have begun. -/
theorem enter_seq_iff {m : Marked} :
    ((enter && m.nullable p.surroundings) || m.final p.surroundings) = true ↔
      m.continuation enter p p := by
  rw [Bool.or_eq_true, Bool.and_eq_true, nullable_iff, final_iff, or_comm]
  rfl

/-- Whether another round of a repetition may begin. -/
theorem enter_star_iff {m : Marked} :
    (enter || m.final p.surroundings) = true ↔ enter = true ∨ m.resumption p p := by
  rw [Bool.or_eq_true, final_iff]

/-- After one more character the marks stand for the matches that read the character and that the
old marks could go on with or that begin in front of it. -/
theorem resumption_shift (m : Marked) :
    (m.shift ⟨before, some c⟩ c enter).resumption ⟨some c, cs⟩ q ↔
      moved (m.continuation enter) ⟨before, c :: cs⟩ q := by
  -- `here` is the position in front of the character, and `there` the one behind it
  obtain ⟨here, hhere⟩ : ∃ p : Position, p = ⟨before, c :: cs⟩ := ⟨_, rfl⟩
  obtain ⟨there, hthere⟩ : ∃ p : Position, p = ⟨some c, cs⟩ := ⟨_, rfl⟩
  have hs : (⟨before, some c⟩ : Surroundings) = here.surroundings := by rw [hhere]; rfl
  rw [← hhere, ← hthere, hs]
  induction m generalizing enter q with
  | chars mark set =>
    have hne : there ≠ here := by
      rw [hthere, hhere]
      exact fun h => List.cons_ne_self c cs (congrArg Position.ahead h).symm
    rw [moved, continuation, extent, hhere, Position.reads_cons_iff, ← hhere, ← hthere, shift,
      resumption, resumption, Bool.and_eq_true]
    constructor
    · rintro ⟨⟨he, hc⟩, rfl⟩
      exact ⟨hne, .inr ⟨he, hc, rfl⟩⟩
    · rintro ⟨hq, ⟨-, rfl⟩ | ⟨he, hc, rfl⟩⟩
      · exact absurd rfl hq
      · exact ⟨⟨he, hc⟩, rfl⟩
  | seq a b iha ihb =>
    -- the first part reads the character, or it has matched and the second part reads it
    have hfirst (e : Bool) : Comp (a.shift here.surroundings c enter).resumption
        (b.shift here.surroundings c e).extent there q ↔
          Comp (moved (a.continuation enter)) b.extent here q := by
      rw [extent_shift]
      exact exists_congr fun r => and_congr_left' iha
    refine (or_congr (hfirst _) ihb).trans ?_
    rw [moved, moved, continuation, enter_seq_iff, continuation_seq, and_or_left, and_or_left,
      moved_comp_iff a.forward_continuation b.forward_extent, or_assoc,
      or_comm (a := _ ∧ b.resumption here q)]
  | alt a b iha ihb =>
    refine (or_congr iha ihb).trans ?_
    rw [moved, moved, moved, ← and_or_left]
    refine and_congr_right fun _ => ?_
    simp only [continuation, resumption, extent, Extent.either, and_or_left]
    exact or_or_or_comm
  | star a ih =>
    -- a round reads the character that was open, or that begins here in its own right or behind
    -- the open one
    have hround : Comp (a.shift here.surroundings c (enter || a.final here.surroundings)).resumption
        (ReflTransGen a.extent) there q ↔
        Comp (moved (a.continuation (enter || a.final here.surroundings)))
          (ReflTransGen a.extent) here q :=
      exists_congr fun r => and_congr_left' ih
    rw [shift, resumption, extent_shift, hround, comp_moved_continuation, enter_star_iff,
      ← moved_star_iff a.forward_extent]
    rw [moved, continuation, resumption, extent, and_or_left,
      moved_comp_iff a.forward_resumption a.forward_extent.reflTransGen, or_and_right, or_assoc,
      and_left_comm (a := enter = true), and_left_comm (a := a.resumption here here),
      or_comm (a := _ ∧ enter = true ∧ _)]
  | never => exact iff_of_false id fun h => h.2.elim id (·.2)
  | empty => exact iff_of_false id fun ⟨hq, h⟩ => hq (h.elim False.elim (·.2.symm))
  | look _ => exact iff_of_false id fun ⟨hq, h⟩ => hq (h.elim False.elim (·.2.2.symm))

end Shift

/-! ### Searching -/

/-- Whether a match ends at the position itself. -/
theorem ends_here_iff (m : Marked) (p : Position) :
    (m.nullable p.surroundings || m.final p.surroundings) = true ↔ m.continuation true p p := by
  rw [← enter_seq_iff, Bool.true_and]

/-- Some match that the marks stand for, or that begins at the position, or that begins behind
it. -/
def Finds (m : Marked) (p : Position) : Prop :=
  (∃ q, m.resumption p q) ∨ ∃ r q, p.Leads r ∧ m.extent r q

theorem finds_nil_iff (m : Marked) (before : Option Char) :
    m.Finds ⟨before, []⟩ ↔ m.continuation true ⟨before, []⟩ ⟨before, []⟩ := by
  -- no character is left, so that every match ends where the text ends
  have stays {r : Extent} (hr : r.Forward) {q : Position} (h : r ⟨before, []⟩ q) :
      r ⟨before, []⟩ ⟨before, []⟩ := by
    obtain rfl | hlt := hr h
    · exact h
    · exact absurd hlt (Nat.not_lt_zero _)
  constructor
  · rintro (⟨q, h⟩ | ⟨r, q, hr, h⟩)
    · exact .inl (stays m.forward_resumption h)
    · obtain rfl := Position.leads_nil_iff.mp hr
      exact .inr ⟨rfl, stays m.forward_extent h⟩
  · rintro (h | ⟨-, h⟩)
    · exact .inl ⟨_, h⟩
    · exact .inr ⟨_, _, .refl, h⟩

theorem finds_cons_iff (m : Marked) (before : Option Char) (c : Char) (cs : List Char) :
    m.Finds ⟨before, c :: cs⟩ ↔
      m.continuation true ⟨before, c :: cs⟩ ⟨before, c :: cs⟩ ∨
        (m.shift ⟨before, some c⟩ c true).Finds ⟨some c, cs⟩ := by
  constructor
  · rintro (⟨q, h⟩ | ⟨r, q, hr, h⟩)
    · by_cases hq : q = ⟨before, c :: cs⟩
      · exact .inl (.inl (hq ▸ h))
      · exact .inr (.inl ⟨q, (resumption_shift m).mpr ⟨hq, .inl h⟩⟩)
    · obtain rfl | hr := Position.leads_cons_iff.mp hr
      · by_cases hq : q = ⟨before, c :: cs⟩
        · exact .inl (.inr ⟨rfl, hq ▸ h⟩)
        · exact .inr (.inl ⟨q, (resumption_shift m).mpr ⟨hq, .inr ⟨rfl, h⟩⟩⟩)
      · exact .inr (.inr ⟨r, q, hr, (extent_shift ..).symm ▸ h⟩)
  · rintro ((h | ⟨-, h⟩) | ⟨q, h⟩ | ⟨r, q, hr, h⟩)
    · exact .inl ⟨_, h⟩
    · exact .inr ⟨_, _, .refl, h⟩
    · obtain ⟨-, h | ⟨-, h⟩⟩ := (resumption_shift m).mp h
      · exact .inl ⟨q, h⟩
      · exact .inr ⟨_, q, .refl, h⟩
    · rw [extent_shift] at h
      exact .inr ⟨r, q, Position.leads_cons_iff.mpr (.inr hr), h⟩

/-- The search finds a match if there is one. -/
theorem occurs_iff (m : Marked) (before : Option Char) (cs : List Char) :
    m.occurs before cs = true ↔ m.Finds ⟨before, cs⟩ := by
  induction cs generalizing m before with
  | nil => rw [finds_nil_iff, ← ends_here_iff, occurs]; rfl
  | cons c cs ih => rw [finds_cons_iff, ← ends_here_iff, ← ih, occurs, Bool.or_eq_true]; rfl

/-! ### Without marks -/

/-- No character set is marked. -/
def unmarked : Marked → Bool
  | chars mark _ => !mark
  | seq a b => unmarked a && unmarked b
  | alt a b => unmarked a && unmarked b
  | star a => unmarked a
  | _ => true

/-- Without marks there is no match to go on with. -/
theorem not_resumption_of_unmarked {m : Marked} (hm : m.unmarked = true) {p q : Position} :
    ¬ m.resumption p q := by
  induction m generalizing p q with
  | chars mark _ =>
    rintro ⟨rfl, -⟩
    cases hm
  | seq a b iha ihb =>
    obtain ⟨ha, hb⟩ := (Bool.and_eq_true _ _).mp hm
    rintro (⟨r, h, -⟩ | h)
    · exact iha ha h
    · exact ihb hb h
  | alt a b iha ihb =>
    obtain ⟨ha, hb⟩ := (Bool.and_eq_true _ _).mp hm
    rintro (h | h)
    · exact iha ha h
    · exact ihb hb h
  | star a ih =>
    rintro ⟨r, h, -⟩
    exact ih hm h
  | empty | never | look _ => exact id

/-- Without marks, the search finds the matches of the expression in the text. -/
theorem occursIn_iff {m : Marked} (h : m.unmarked = true) (text : String) :
    m.occursIn text = true ↔ ∃ p q, (Position.startOf text).Leads p ∧ m.extent p q := by
  rw [occursIn, occurs_iff]
  exact or_iff_right fun ⟨_, hq⟩ => not_resumption_of_unmarked h hq

end BuildDrift.Pattern.Marked
