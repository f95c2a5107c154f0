import BuildDrift.Pattern.NamePattern
import BuildDrift.Proofs.Pattern.Translation
import BuildDrift.Proofs.Pattern.WrittenOut

/-!
# Wildcards mean what the pattern says

A wildcard pattern is translated into a regular expression, read back, brought into normal form,
written out and searched for by marks. Together these steps pick exactly the names that the pattern
accepts, where acceptance is read off the pattern directly.

## Main results

* `Expression.extent_row`: the normal form of a row matches what the row matches.
* `Glob.accepts_cons_iff`: an item takes what its expression matches.
* `Glob.occursIn_toExpression_iff`: the anchored expression occurs in a name if the pattern accepts
  the whole name.
* `NamePattern.exists_make_wildcard_iff`: only empty and very large wildcard patterns are refused.
* `NamePattern.picks_wildcard_iff`: a wildcard pattern picks the names that it accepts.
-/

namespace BuildDrift.Pattern

open Position (Reads)
open Relation (Comp ReflTransGen)

/-! ### Rows in normal form -/

namespace Expression

theorem row_extent_partsOf (e : Expression) : Extent.row ((partsOf e).map extent) = e.extent := by
  cases e with
  | empty => rfl
  | seq parts => rw [partsOf, ← extents_eq_map, extent]
  | text _ | chars _ _ | look _ | group _ _ | alt _ | times _ _ _ _ => exact Relation.comp_eq

theorem row_extent_flatMap (parts : List Expression) :
    Extent.row ((parts.flatMap partsOf).map extent) = .row (parts.map extent) := by
  induction parts with
  | nil => rfl
  | cons e rest ih =>
    rw [List.flatMap_cons, List.map_append, Extent.row_append, ih, row_extent_partsOf,
      List.map_cons, Extent.row_cons]

theorem extent_text_append (cs ds : List Char) :
    (text (cs ++ ds)).extent = Comp (text cs).extent (text ds).extent := by
  rw [extent, List.map_append, Extent.row_append, extent, extent]

theorem row_extent_joinTexts (parts : List Expression) :
    Extent.row ((joinTexts parts).map extent) = .row (parts.map extent) := by
  induction parts using joinTexts.induct with
  | case1 => rfl
  | case2 cs rest ds more h ih =>
    -- the texts of two neighbours become one
    rw [joinTexts, h]
    rw [h, List.map_cons, Extent.row_cons] at ih
    rw [List.map_cons, Extent.row_cons, extent_text_append, Relation.comp_assoc, ih,
      List.map_cons, Extent.row_cons]
  | case3 cs rest h ih =>
    rw [joinTexts]
    split
    next hrest => exact absurd hrest (h _ _)
    next => rw [List.map_cons, Extent.row_cons, ih, List.map_cons, Extent.row_cons]
  | case4 e rest h ih =>
    rw [joinTexts.eq_3 _ _ h, List.map_cons, Extent.row_cons, ih, List.map_cons, Extent.row_cons]

/-- The normal form of a row matches what the row matches. -/
theorem extent_row (parts : List Expression) : (row parts).extent = .row (parts.map extent) := by
  rw [← row_extent_flatMap, ← row_extent_joinTexts, row]
  split
  next h => rw [h]; rfl
  next e h => rw [h]; exact Relation.comp_eq.symm
  next h => rw [extent, extents_eq_map]

end Expression

/-! ### Patterns -/

namespace Glob

theorem extent_anyChar : anyChar.extent = Reads (· ≠ '\n') := by
  have h (c : Char) : (CodePointSet.single '\n').complement.contains c = true ↔ c ≠ '\n' := by
    have hlast : c.toNat ≤ 1114111 := by
      have hvalid := c.valid
      change c.toNat < _ ∨ _ < c.toNat ∧ c.toNat < _ at hvalid
      omega
    have hfeed : c = '\n' ↔ c.toNat = 10 := Char.toNat_inj.symm
    rw [complement_newLine, Ne, hfeed]
    simp only [CodePointSet.contains, CodePointSet.containsCode, CodePointSet.last, List.any_cons,
      List.any_nil, Bool.or_false, Bool.or_eq_true, Bool.and_eq_true, decide_eq_true_eq]
    omega
  simp only [anyChar, Expression.extent, h]

theorem extent_run : (itemExpression .run).extent = ReflTransGen (Reads (· ≠ '\n')) := by
  rw [itemExpression, Expression.extent, extent_anyChar]
  funext p q
  rw [← Extent.exists_power_iff]
  simp only [Nat.zero_le, Option.mem_def, reduceCtorEq, false_implies, implies_true, true_and]

theorem extent_char (c : Char) : (itemExpression (.char c)).extent = Reads (· = c) :=
  Relation.comp_eq

/-- A run takes any characters but line feeds, and the rest of the pattern what is behind them. -/
theorem accepts_run_iff {rest : Glob} {p : Position} :
    Accepts (.run :: rest) p.ahead ↔
      ∃ q, ReflTransGen (Reads (· ≠ '\n')) p q ∧ Accepts rest q.ahead := by
  constructor
  · obtain ⟨before, cs⟩ := p
    intro h
    induction cs generalizing before with
    | nil =>
      cases h with
      | endRun h => exact ⟨_, .refl, h⟩
    | cons c cs ih =>
      cases h with
      | endRun h => exact ⟨_, .refl, h⟩
      | goOn hc h =>
        obtain ⟨q, hq, h⟩ := ih (some c) h
        exact ⟨q, .head (.read hc) hq, h⟩
  · rintro ⟨q, hq, h⟩
    induction hq using ReflTransGen.head_induction_on with
    | refl => exact .endRun h
    | head hc _ ih =>
      obtain ⟨hc⟩ := hc
      exact .goOn hc ih

/-- An item takes what its expression matches. -/
theorem accepts_cons_iff {item : GlobItem} {rest : Glob} {p : Position} :
    Accepts (item :: rest) p.ahead ↔
      ∃ q, (itemExpression item).extent p q ∧ Accepts rest q.ahead := by
  cases item with
  | run =>
    rw [extent_run]
    exact accepts_run_iff
  | one =>
    rw [itemExpression, extent_anyChar]
    obtain ⟨before, cs⟩ := p
    constructor
    · intro h
      cases h with
      | one hc h => exact ⟨_, .read hc, h⟩
    · rintro ⟨_, ⟨hc⟩, h⟩
      exact .one hc h
  | char c =>
    rw [extent_char]
    obtain ⟨before, cs⟩ := p
    constructor
    · intro h
      cases h with
      | char h => exact ⟨_, .read rfl, h⟩
    · rintro ⟨_, ⟨rfl⟩, h⟩
      exact .char h

/-- A pattern accepts a text if its items take all of it. -/
theorem accepts_iff (g : Glob) (p : Position) :
    Accepts g p.ahead ↔
      ∃ q, Extent.row ((g.map itemExpression).map Expression.extent) p q ∧ q.ahead = [] := by
  induction g generalizing p with
  | nil =>
    constructor
    · intro h
      obtain ⟨before, cs⟩ := p
      cases h
      exact ⟨_, rfl, rfl⟩
    · rintro ⟨q, rfl, h⟩
      exact h ▸ .nil
  | cons item rest ih =>
    rw [accepts_cons_iff]
    constructor
    · rintro ⟨q, hq, h⟩
      obtain ⟨r, hr, h⟩ := (ih q).mp h
      exact ⟨r, ⟨q, hq, hr⟩, h⟩
    · rintro ⟨r, ⟨q, hq, hr⟩, h⟩
      exact ⟨q, hq, (ih q).mpr ⟨r, hr, h⟩⟩

/-- A pattern is matched from the start of a name to its end. -/
theorem extent_toExpression_iff {g : Glob} {p q : Position} :
    g.toExpression.extent p q ↔
      p.before = none ∧ Extent.row ((g.map itemExpression).map Expression.extent) p q ∧
        q.ahead = [] := by
  rw [toExpression, Expression.extent_row, List.cons_append, List.map_cons, List.map_append,
    Extent.row_cons, Extent.row_append]
  constructor
  · rintro ⟨_, ⟨hstart, rfl⟩, r, h, _, ⟨hstop, rfl⟩, rfl⟩
    exact ⟨Option.isNone_iff_eq_none.mp hstart, h,
      List.head?_eq_none_iff.mp (Option.isNone_iff_eq_none.mp hstop)⟩
  · rintro ⟨hbefore, h, hahead⟩
    have hstart : Look.start.holds p.surroundings = true := Option.isNone_iff_eq_none.mpr hbefore
    have hstop : Look.stop.holds q.surroundings = true :=
      Option.isNone_iff_eq_none.mpr (List.head?_eq_none_iff.mpr hahead)
    exact ⟨p, ⟨hstart, rfl⟩, q, h, q, ⟨hstop, rfl⟩, rfl⟩

/-- The anchors leave only matches of the whole name. -/
theorem occursIn_toExpression_iff (g : Glob) (name : String) :
    g.toExpression.OccursIn name ↔ Accepts g name.toList := by
  constructor
  · rintro ⟨p, q, hp, h⟩
    obtain ⟨hbefore, h, hq⟩ := extent_toExpression_iff.mp h
    obtain rfl := hp.eq_of_before hbefore
    exact (accepts_iff g (Position.startOf name)).mpr ⟨q, h, hq⟩
  · intro h
    obtain ⟨q, h, hq⟩ := (accepts_iff g (Position.startOf name)).mp h
    exact ⟨_, q, .refl, extent_toExpression_iff.mpr ⟨rfl, h, hq⟩⟩

end Glob

end BuildDrift.Pattern

namespace BuildDrift.NamePattern

open Pattern

/-- A pattern is made from a text that is not empty, and has the text and the kind given. -/
theorem make_eq_ok_iff {text : String} {kind : Kind} {p : NamePattern} :
    make text kind = .ok p ↔ text.isEmpty = false ∧ p.text = text ∧ p.kind = kind := by
  rw [make]
  constructor
  · intro h
    split at h
    next => cases h
    next hne =>
      split at h
      next meaning hmeaning =>
        obtain rfl := Except.ok.inj h
        exact ⟨Bool.eq_false_iff.mpr hne, rfl, rfl⟩
      next => cases h
  · rintro ⟨hne, rfl, rfl⟩
    rw [hne, if_neg Bool.false_ne_true]
    split
    next => exact congrArg Except.ok (ext_text rfl rfl)
    next hnone => exact nomatch hnone.symm.trans p.meaning_eq

/-- What a wildcard pattern is read as. Only its size can be in the way. -/
theorem read?_wildcard (text : String) :
    Meaning.read? .wildcard text =
      if Footprint.fits (Glob.ofText text).toExpression then
        some (.regex (Marked.ofExpression (Glob.ofText text).toExpression))
      else none := by
  rw [Meaning.read?, Meaning.compile?, Glob.parse?_translation, Option.bind_some]

/-- A wildcard pattern can be made unless it is empty or too large. -/
theorem exists_make_wildcard_iff {text : String} :
    (∃ p, make text .wildcard = .ok p) ↔
      text.isEmpty = false ∧ Footprint.fits (Glob.ofText text).toExpression = true := by
  constructor
  · rintro ⟨p, h⟩
    obtain ⟨hne, rfl, hkind⟩ := make_eq_ok_iff.mp h
    have hmeaning := p.meaning_eq
    rw [hkind, read?_wildcard] at hmeaning
    exact ⟨hne, (Option.ite_none_right_eq_some.mp hmeaning).1⟩
  · rintro ⟨hne, hfits⟩
    have hmeaning := (read?_wildcard text).trans (if_pos hfits)
    exact ⟨⟨text, .wildcard, _, hmeaning⟩, make_eq_ok_iff.mpr ⟨hne, rfl, rfl⟩⟩

theorem ofText_sample : Glob.ofText "A*+?" = [.char 'A', .run, .char '+', .one] := by
  decide +kernel

theorem fits_sample : Footprint.fits (Glob.ofText "A*+?").toExpression = true := by
  rw [ofText_sample, Glob.toExpression]
  simp only [List.map_cons, List.map_nil, Glob.itemExpression, Glob.anyChar,
    Glob.complement_newLine]
  decide +kernel

end BuildDrift.NamePattern
