import BuildDrift.Text.Blank
import BuildDrift.Text.Lines
import Mathlib.Data.List.Basic

/-!
# Lines and blank lines

A text that consists of lines, each ended by a line feed, is split into these lines. Which lines
that are not blank it has does not change when blank lines are put in front of any line or behind
the last one, nor when a line is ended by a carriage return and a line feed instead of a line feed
alone.

## Main definitions

* `Lines.filled`: the lines of a text that are not blank.
* `Lines.Loosened`: a text with more blank lines and with other line ends.

## Main results

* `Lines.split_append`: a line is split off from the front of a text.
* `Lines.Loosened.filled_eq`: the lines that are not blank stay the same.
-/

namespace BuildDrift.Lines

variable {line text text' : List Char}

/-! ### Splitting off a line -/

theorem dropReturn_append (line : List Char) : dropReturn (line ++ ['\r']) = line := by
  induction line with
  | nil => rfl
  | cons c line ih => cases line <;> simp_all [dropReturn]

theorem dropReturn_of_getLast? (h : line.getLast? ≠ some '\r') : dropReturn line = line := by
  induction line with
  | nil => rfl
  | cons c line ih =>
    cases line with
    | nil => simp_all [dropReturn]
    | cons d line =>
      rw [dropReturn, ih (by simpa using h)]
      simp

/-- What is left of a line is its front. -/
theorem dropReturn_subset (line : List Char) : dropReturn line ⊆ line := by
  by_cases h : line.getLast? = some '\r'
  · obtain ⟨front, rfl⟩ := List.getLast?_eq_some_iff.1 h
    rw [dropReturn_append]
    exact List.subset_append_left front _
  · rw [dropReturn_of_getLast? h]
    exact List.Subset.refl line

theorem splitFrom_append (h : '\n' ∉ line) (seen text : List Char) :
    splitFrom seen (line ++ '\n' :: text) = dropReturn (seen.reverse ++ line) :: split text := by
  induction line generalizing seen with
  | nil => simp [splitFrom, split]
  | cons c line ih =>
    obtain ⟨hc, hline⟩ : '\n' ≠ c ∧ '\n' ∉ line := by simpa using h
    rw [List.cons_append, splitFrom, if_neg (Ne.symm hc), ih hline, List.reverse_cons,
      List.append_assoc, List.singleton_append]

/-- A line is split off from the front of a text. -/
theorem split_append (h : '\n' ∉ line) (text : List Char) :
    split (line ++ '\n' :: text) = dropReturn line :: split text :=
  splitFrom_append h [] text

/-- What stands behind the last line feed is a line of its own, unless it is empty. -/
theorem split_of_notMem (h : '\n' ∉ line) : split line = if line = [] then [] else [line] := by
  have hfrom (seen : List Char) : splitFrom seen line =
      if seen.reverse ++ line = [] then [] else [seen.reverse ++ line] := by
    induction line generalizing seen with
    | nil => simp [splitFrom]
    | cons c line ih =>
      obtain ⟨hc, hline⟩ : '\n' ≠ c ∧ '\n' ∉ line := by simpa using h
      rw [splitFrom, if_neg (Ne.symm hc), ih hline]
      simp
  exact hfrom []

/-! ### Blank lines and line ends -/

/-- The lines of a text that are not blank. -/
def filled (text : List Char) : List (List Char) :=
  (split text).filter fun line => !Blank.isAllBlank line

/-- A text with more blank lines and with carriage returns in front of line feeds. -/
inductive Loosened : List Char → List Char → Prop
  /-- The text itself. -/
  | refl (text : List Char) : Loosened text text
  /-- A line is left as it is. -/
  | keep {line text text' : List Char} (h : '\n' ∉ line) (hrest : Loosened text text') :
      Loosened (line ++ '\n' :: text) (line ++ '\n' :: text')
  /-- A line gets a carriage return in front of its line feed. -/
  | addReturn {line text text' : List Char} (h : '\n' ∉ line) (hlast : line.getLast? ≠ some '\r')
      (hrest : Loosened text text') :
      Loosened (line ++ '\n' :: text) (line ++ '\r' :: '\n' :: text')
  /-- A blank line is put in front. -/
  | addBlank {line text text' : List Char} (h : '\n' ∉ line) (hblank : Blank.isAllBlank line)
      (hrest : Loosened text text') : Loosened text (line ++ '\n' :: text')
  /-- Blanks without a line end are put behind the last line. -/
  | addTrail {line : List Char} (h : '\n' ∉ line) (hblank : Blank.isAllBlank line) :
      Loosened [] line

/-- The lines that are not blank stay the same. -/
theorem Loosened.filled_eq (h : Loosened text text') : filled text' = filled text := by
  induction h with
  | refl text => rfl
  | keep h hrest ih =>
    simp only [filled] at ih ⊢
    rw [split_append h, split_append h, List.filter_cons, List.filter_cons, ih]
  | @addReturn line text text' h hlast hrest ih =>
    have hreturn : '\n' ∉ line ++ ['\r'] := by simpa using h
    have hline : line ++ '\r' :: '\n' :: text' = (line ++ ['\r']) ++ '\n' :: text' := by simp
    simp only [filled] at ih ⊢
    rw [hline, split_append hreturn, split_append h, dropReturn_append,
      dropReturn_of_getLast? hlast, List.filter_cons, List.filter_cons, ih]
  | @addBlank line text text' h hblank hrest ih =>
    have hdropped : Blank.isAllBlank (dropReturn line) := by
      rw [Blank.isAllBlank, List.all_eq_true] at hblank ⊢
      exact fun c hc => hblank c (dropReturn_subset line hc)
    rw [filled, split_append h, List.filter_cons_of_neg (by simpa using hdropped)]
    exact ih
  | @addTrail line h hblank =>
    rw [filled, split_of_notMem h]
    split_ifs
    · rfl
    · rw [List.filter_cons_of_neg (by simpa using hblank)]
      rfl

end BuildDrift.Lines
