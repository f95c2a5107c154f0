import BuildDrift.Text.Blank
import Mathlib.Data.List.Basic

/-!
# Blanks around a text

No visible character of the first 127 is blank. A text without blanks is what is left of it when
blanks are put around it and taken away again.

## Main results

* `Blank.isBlank_of_visible`: visible characters are not blank.
* `Blank.trim_append`, `Blank.trim_cons`: blanks around a text are taken away.
-/

namespace BuildDrift.Blank

/-- The blank characters, by their code points. -/
theorem ranges_whiteSpace : CharProperty.whiteSpace.ranges =
    [(0x9, 0xD), (0x20, 0x20), (0x85, 0x85), (0xA0, 0xA0), (0x1680, 0x1680), (0x2000, 0x200A),
      (0x2028, 0x2029), (0x202F, 0x202F), (0x205F, 0x205F), (0x3000, 0x3000)] := by
  decide +kernel

/-- No visible character of the first 127 is blank. -/
theorem isBlank_of_visible {c : Char} (hlow : 0x20 < c.toNat) (hhigh : c.toNat < 0x7F) :
    isBlank c = false := by
  rw [isBlank, CodePointSet.contains, CodePointSet.containsCode, ranges_whiteSpace]
  simp only [List.any_cons, List.any_nil, Bool.or_false, Bool.or_eq_false_iff,
    Bool.and_eq_false_iff, decide_eq_false_iff_not]
  omega

theorem isBlank_space : isBlank ' ' = true := by
  rw [isBlank, CodePointSet.contains, CodePointSet.containsCode, ranges_whiteSpace]
  rfl

variable {cs blanks : List Char}

/-- Nothing is taken from the front of a text that begins with no blank. -/
theorem dropWhile_isBlank (hcs : ∀ c ∈ cs.head?, isBlank c = false) :
    cs.dropWhile isBlank = cs := by
  cases cs with
  | nil => rfl
  | cons c cs => exact List.dropWhile_cons_of_neg (by simp [hcs c rfl])

/-- Blanks behind a text without blanks are taken away. -/
theorem trim_append (hcs : ∀ c ∈ cs, isBlank c = false) (hne : cs ≠ [])
    (hblanks : ∀ c ∈ blanks, isBlank c = true) : trim (cs ++ blanks) = cs := by
  have hfront : (cs ++ blanks).dropWhile isBlank = cs ++ blanks :=
    dropWhile_isBlank fun c hc =>
      hcs c (List.mem_of_mem_head? (List.head?_append_of_ne_nil cs hne ▸ hc))
  have hback : (blanks.reverse ++ cs.reverse).dropWhile isBlank = cs.reverse.dropWhile isBlank :=
    List.dropWhile_append_of_pos fun c hc => hblanks c (List.mem_reverse.1 hc)
  have hrest : cs.reverse.dropWhile isBlank = cs.reverse :=
    dropWhile_isBlank fun c hc => hcs c (List.mem_reverse.1 (List.mem_of_mem_head? hc))
  rw [trim, hfront, List.reverse_append, hback, hrest, List.reverse_reverse]

/-- A blank in front of a text is taken away. -/
theorem trim_cons {c : Char} (hc : isBlank c = true) : trim (c :: cs) = trim cs := by
  rw [trim, trim, List.dropWhile_cons_of_pos hc]

end BuildDrift.Blank
