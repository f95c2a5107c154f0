import BuildDrift.Proofs.Json.Reading

/-!
# Values in one line

The compact text of a value has its tokens, like the indented one, and it is a single line whatever
strings the value holds: all characters below the blank, line ends among them, are written by
escapes.

## Main results

* `Value.scan_compact`, `Decoder.ofText_compact`: the compact text of a value has its tokens, so
  that what is read from its tree is read from that text.
* `Value.space_le_of_mem_compactChars`: no character of the compact text is below the blank.
-/

namespace BuildDrift.Json

namespace Value

open Token (Spells)

/-! ### Tokens -/

theorem breaks_closeList {cs : List Char} : Breaks (']' :: cs) := by
  rintro c ⟨⟩
  decide

theorem breaks_closeRecord {cs : List Char} : Breaks ('\x7d' :: cs) := by
  rintro c ⟨⟩
  decide

mutual

/-- The compact text of a value has its tokens. -/
theorem spells_compactChars : ∀ v, Spells (compactChars v) v.tokens
  | null => spells_scalar null
  | bool b => spells_scalar (bool b)
  | int n => spells_scalar (int n)
  | float x => spells_scalar (float x)
  | text s => spells_scalar (text s)
  | list items => by
    rw [compactChars, tokens]
    exact Spells.punctuation rfl ((spells_compactItems items).append breaks_closeList
      (Spells.punctuation rfl Spells.nil))
  | record members => by
    rw [compactChars, tokens]
    exact Spells.punctuation rfl ((spells_compactMembers members).append breaks_closeRecord
      (Spells.punctuation rfl Spells.nil))

theorem spells_compactItems : ∀ items, Spells (compactItems items) (itemTokens items)
  | [] => Spells.nil
  | [v] => spells_compactChars v
  | v :: w :: rest => by
    rw [compactItems, itemTokens]
    · exact (spells_compactChars v).append breaks_comma
        (Spells.punctuation rfl (spells_compactItems (w :: rest)))
    all_goals exact List.cons_ne_nil _ _

theorem spells_compactMembers : ∀ members, Spells (compactMembers members) (memberTokens members)
  | [] => Spells.nil
  | [(key, v)] => Spells.quoted key (Spells.punctuation rfl (spells_compactChars v))
  | (key, v) :: w :: rest => by
    have hvalue := (spells_compactChars v).append breaks_comma
      (Spells.punctuation rfl (spells_compactMembers (w :: rest)))
    rw [compactMembers, memberTokens]
    · exact Spells.quoted key (Spells.punctuation rfl hvalue)
    all_goals exact List.cons_ne_nil _ _

end

/-- The compact text of a value has its tokens, and no others. -/
theorem scan_compact (v : Value) : Token.scan v.compact = v.tokens :=
  Token.scan_ofList (spells_compactChars v)

end Value

theorem Decoder.ofText_compact {α : Type} (read : Decoder α) (v : Value) :
    ofText read v.compact = read v.node :=
  ofText_of_scan read v.scan_compact

/-! ### Characters -/

/-- No character of a text is below the blank. -/
def Plain (cs : List Char) : Prop :=
  ∀ c ∈ cs, ' ' ≤ c

-- the texts have few characters, so these are tried and not all characters there are
instance : DecidablePred Plain := fun cs =>
  List.decidableBAll (fun c => ' ' ≤ c) cs

namespace Plain

variable {c : Char} {cs ds : List Char}

@[simp] theorem nil : Plain [] :=
  fun _ hc => absurd hc List.not_mem_nil

@[simp] theorem cons_iff : Plain (c :: cs) ↔ ' ' ≤ c ∧ Plain cs :=
  List.forall_mem_cons

@[simp] theorem append_iff : Plain (cs ++ ds) ↔ Plain cs ∧ Plain ds :=
  List.forall_mem_append

theorem of_isDigit (h : ∀ c ∈ cs, c.isDigit) : Plain cs := by
  intro c hc
  have hdigit := h c hc
  rw [Char.isDigit, Bool.and_eq_true, decide_eq_true_iff, decide_eq_true_iff] at hdigit
  exact Nat.le_trans (by decide) hdigit.1

/-- A plain text has no line ends. -/
theorem newLine_notMem (h : Plain cs) : '\n' ∉ cs :=
  fun hmem => absurd (h '\n' hmem) (by decide)

theorem getLast?_ne_return (h : Plain cs) : cs.getLast? ≠ some '\r' :=
  fun hlast => absurd (h '\r' (List.mem_of_getLast? hlast)) (by decide)

end Plain

theorem Numeral.plain_chars {n : Numeral} (hn : n.Proper) : Plain n.chars := by
  have hexponent : Plain (exponentChars n.exponent) := by
    cases h : n.exponent with
    | none => exact Plain.nil
    | some e =>
      obtain ⟨minus, digits⟩ := e
      have hdigits := Plain.of_isDigit (hn.exponent minus digits h).2
      cases minus <;> simp [exponentChars, hdigits]
  have hfraction : Plain (fractionChars n.fraction) := by
    rw [fractionChars]
    split_ifs
    · exact Plain.nil
    · exact Plain.cons_iff.2 ⟨by decide, Plain.of_isDigit hn.isDigit_fraction⟩
  have hunsigned : Plain n.unsignedChars := by
    simp [unsignedChars, Plain.of_isDigit hn.isDigit_whole, hfraction, hexponent]
  rw [chars]
  split_ifs
  · exact Plain.cons_iff.2 ⟨by decide, hunsigned⟩
  · exact hunsigned

namespace Value

/-- The sixteen digits are not below the blank. -/
theorem plain_digits (n : ℕ) : Plain (Hex.digits n) := by
  have hall : ∀ d < 16, ' ' ≤ d.digitChar := by decide
  intro c hc
  obtain ⟨d, hd, rfl⟩ := Hex.mem_digits hc
  exact hall d hd

/-- Characters below the blank are written by escapes. -/
theorem plain_escape (c : Char) : Plain (escape c) := by
  have hzeros (k : ℕ) : Plain (List.replicate k '0') :=
    fun d hd => List.eq_of_mem_replicate hd ▸ by decide
  rw [escape]
  split_ifs with hself hbackspace htab hline hpage hreturn hcontrol
  · rcases hself with rfl | rfl <;> simp
  · simp
  · simp
  · simp
  · simp
  · simp
  · simp [List.leftpad, hzeros, plain_digits]
  · simpa using hcontrol

theorem plain_quoted (s : String) : Plain (quoted s) := by
  have hcontent : Plain (s.toList.flatMap escape) := by
    intro d hd
    obtain ⟨c, -, hd⟩ := List.mem_flatMap.1 hd
    exact plain_escape c d hd
  simp [quoted, hcontent]

theorem plain_scalar (v : Value) : Plain (scalar v) := by
  have hnull : Plain "null".toList := by decide
  cases v with
  | bool b => cases b <;> decide
  | int n =>
    rw [scalar, ← Numeral.chars_ofInt]
    exact Numeral.plain_chars (Numeral.proper_ofInt n)
  | float x =>
    rw [scalar]
    split_ifs
    · rw [← Numeral.chars_ofBinary64]
      exact Numeral.plain_chars (Numeral.proper_ofBinary64 x)
    · exact hnull
  | text s => exact plain_quoted s
  | null | list | record => exact hnull

mutual

/-- The compact text of a value is a single line. -/
theorem plain_compactChars : ∀ v, Plain (compactChars v)
  | null => plain_scalar null
  | bool b => plain_scalar (bool b)
  | int n => plain_scalar (int n)
  | float x => plain_scalar (float x)
  | text s => plain_scalar (text s)
  | list items => by
    have hitems := plain_compactItems items
    simp [compactChars, hitems]
  | record members => by
    have hmembers := plain_compactMembers members
    simp [compactChars, hmembers]

theorem plain_compactItems : ∀ items, Plain (compactItems items)
  | [] => Plain.nil
  | [v] => plain_compactChars v
  | v :: w :: rest => by
    have hv := plain_compactChars v
    have hrest := plain_compactItems (w :: rest)
    rw [compactItems]
    · simp [hv, hrest]
    · simp

theorem plain_compactMembers : ∀ members, Plain (compactMembers members)
  | [] => Plain.nil
  | [(key, v)] => by
    have hv := plain_compactChars v
    simp [compactMembers, plain_quoted, hv]
  | (key, v) :: w :: rest => by
    have hv := plain_compactChars v
    have hrest := plain_compactMembers (w :: rest)
    rw [compactMembers]
    · simp [plain_quoted, hv, hrest]
    · simp

end

end Value

end BuildDrift.Json
