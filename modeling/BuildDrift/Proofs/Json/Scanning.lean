import BuildDrift.Json.Token
import BuildDrift.Proofs.Json.Numerals
import BuildDrift.Proofs.Text.Hex

/-!
# The tokens of a text that is written

A string is written between quotes so that its characters are read back, and a value in either
layout so that its tokens are. Blanks between tokens do not matter, and neither does what follows,
except that a numeral must not be followed by something that goes on with it.

## Main definitions

* `Token.Spells`: the tokens of a piece of text, whatever surrounds it.
* `Value.tokens`: the tokens of a value.

## Main results

* `Quote.scan_escape`: a string that is written is read back.
* `Value.scan_indented`: the indented text of a value has its tokens.
-/

namespace BuildDrift.Json

/-! ### Strings -/

namespace Quote

variable {content : Except Fault (List Char)} {rest : List Char}

theorem scanFrom_quote :
    scanFrom content ('"' :: rest) =
      .complete (content.map fun cs => String.ofList cs.reverse) rest := by
  rw [scanFrom]

/-- A backslash and a character that stand for another. -/
theorem scanFrom_simple {c e : Char} (h : simpleEscape? c = some e) :
    scanFrom content ('\\' :: c :: rest) = scanFrom (add content e) rest := by
  have hu : c ≠ 'u' := by
    rintro rfl
    have hnone : simpleEscape? 'u' = none := rfl
    exact Option.some_ne_none e (h.symm.trans hnone)
  rw [scanFrom, h]
  · rintro - - - - - rfl
    exact absurd rfl hu
  · exact hu

/-- Four digits of a number that is no half of a surrogate pair. -/
theorem scanFrom_unicode {a b c d : Char} {n : ℕ} (h : hex4? a b c d = some n)
    (hlow : isLowSurrogate n = false) (hhigh : isHighSurrogate n = false) :
    scanFrom content ('\\' :: 'u' :: a :: b :: c :: d :: rest) =
      scanFrom (add content (Char.ofNat n)) rest := by
  rw [scanFrom, h]
  simp only [hlow, hhigh, Bool.false_eq_true, if_false]

/-- A character that stands for itself. -/
theorem scanFrom_plain {c : Char} (hquote : c ≠ '"') (hslash : c ≠ '\\') (hc : ¬c < ' ') :
    scanFrom content (c :: rest) = scanFrom (add content c) rest := by
  rw [scanFrom]
  · rw [if_neg hc]
  all_goals simp_all

/-- A control character is written with four digits. -/
theorem scanFrom_control {c : Char} (hc : c < ' ') :
    scanFrom content ('\\' :: 'u' :: (Hex.digits c.toNat).leftpad 4 '0' ++ rest) =
      scanFrom (add content c) rest := by
  have hlt : c.toNat < 32 := hc
  have hlength : ((Hex.digits c.toNat).leftpad 4 '0').length = 4 :=
    Hex.length_leftpad_four (by omega)
  have hread : Hex.read? ((Hex.digits c.toNat).leftpad 4 '0') = some c.toNat :=
    Hex.read?_leftpad 4 c.toNat
  match hdigits : (Hex.digits c.toNat).leftpad 4 '0', hlength with
  | [h₁, h₂, h₃, h₄], _ =>
    rw [hdigits] at hread
    have hfour : hex4? h₁ h₂ h₃ h₄ = some c.toNat := hread
    have hlow : isLowSurrogate c.toNat = false := by simp [isLowSurrogate]; omega
    have hhigh : isHighSurrogate c.toNat = false := by simp [isHighSurrogate]; omega
    have hchar : Char.ofNat c.toNat = c := Char.ofNat_toNat c
    have hscan : scanFrom content ('\\' :: 'u' :: h₁ :: h₂ :: h₃ :: h₄ :: rest) =
        scanFrom (add content (Char.ofNat c.toNat)) rest := scanFrom_unicode hfour hlow hhigh
    rw [hchar] at hscan
    exact hscan

/-- However a character is written, it is read back. -/
theorem scanFrom_escape (c : Char) :
    scanFrom content (Value.escape c ++ rest) = scanFrom (add content c) rest := by
  rw [Value.escape]
  split_ifs with hself hbackspace htab hline hpage hreturn hcontrol
  · rcases hself with rfl | rfl <;> exact scanFrom_simple rfl
  · exact hbackspace ▸ scanFrom_simple rfl
  · exact htab ▸ scanFrom_simple rfl
  · exact hline ▸ scanFrom_simple rfl
  · exact hpage ▸ scanFrom_simple rfl
  · exact hreturn ▸ scanFrom_simple rfl
  · exact scanFrom_control hcontrol
  · exact scanFrom_plain (fun h => hself (.inl h)) (fun h => hself (.inr h)) hcontrol

theorem scanFrom_flatMap_escape (seen cs : List Char) :
    scanFrom (.ok seen) (cs.flatMap Value.escape ++ rest) =
      scanFrom (.ok (cs.reverse ++ seen)) rest := by
  induction cs generalizing seen with
  | nil => rfl
  | cons c cs ih =>
    rw [List.flatMap_cons, List.append_assoc, scanFrom_escape, List.reverse_cons,
      List.append_assoc]
    exact ih (c :: seen)

/-- A string that is written is read back. -/
theorem scan_escape (s : String) :
    scan (s.toList.flatMap Value.escape ++ '"' :: rest) = .complete (.ok s) rest := by
  rw [scan, scanFrom_flatMap_escape, scanFrom_quote, List.append_nil]
  simp only [Except.map, List.reverse_reverse, String.ofList_toList]

end Quote

/-! ### Single tokens -/

namespace Token

variable {done : List Token} {c : Char} {rest : List Char}

theorem scanFrom_blank (hc : isBlank c = true) :
    scanFrom done (c :: rest) = scanFrom done rest := by
  rw [scanFrom, if_pos hc]

theorem scanFrom_quoted (s : String) :
    scanFrom done (Value.quoted s ++ rest) = scanFrom (text (.ok s) :: done) rest := by
  have hscan : Quote.scan (s.toList.flatMap Value.escape ++ ['"'] ++ rest) =
      .complete (.ok s) rest := by
    rw [List.append_assoc]
    exact Quote.scan_escape s
  rw [Value.quoted, List.cons_append, scanFrom, if_neg (by decide), if_pos rfl]
  split
  · next h =>
    obtain ⟨rfl, rfl⟩ := Quote.Scan.complete.inj (hscan.symm.trans h)
    rfl
  · next h => exact absurd (hscan.symm.trans h) (by simp)

theorem scanFrom_numeral {n : Numeral} (hn : n.Proper) (hrest : Breaks rest) :
    scanFrom done (n.chars ++ rest) = scanFrom (number n :: done) rest := by
  have hscan := Numeral.scan_chars hn hrest
  obtain ⟨c, tail, hchars, hc⟩ := Numeral.exists_head_chars hn
  have hblank : ¬isBlank c = true := by
    simp only [isBlank, Bool.or_eq_true, decide_eq_true_eq]
    rintro (((rfl | rfl) | rfl) | rfl) <;> exact absurd hc (by decide)
  have hquote : c ≠ '"' := by
    rintro rfl
    exact absurd hc (by decide)
  rw [hchars, List.cons_append] at hscan ⊢
  rw [scanFrom, if_neg hblank, if_neg hquote, if_pos hc]
  split
  · next h =>
    obtain ⟨rfl, rfl⟩ := Numeral.Scan.complete.inj (hscan.symm.trans h)
    rfl
  · next h => exact absurd (hscan.symm.trans h) (by simp)

theorem scanFrom_punctuation {token : Token} (hc : punctuation? c = some token) :
    scanFrom done (c :: rest) = scanFrom (token :: done) rest := by
  unfold punctuation? at hc
  split at hc
  case h_7 => contradiction
  all_goals
    cases hc
    rw [scanFrom, if_neg (by decide), if_neg (by decide), if_neg (by decide)]
    rfl

theorem wordTail_append (tail rest : List Char) : wordTail tail (tail ++ rest) = .ok rest := by
  induction tail with
  | nil => rfl
  | cons c tail ih => rw [List.cons_append, wordTail, if_pos rfl, ih]

theorem scanFrom_word {token : Token} {tail : List Char} (hc : word? c = some (token, tail)) :
    scanFrom done (c :: (tail ++ rest)) = scanFrom (token :: done) rest := by
  have hstart : isBlank c = false ∧ c ≠ '"' ∧ ¬(c = '-' ∨ c.isDigit = true) ∧
      punctuation? c = none := by
    unfold word? at hc
    split at hc
    case h_4 => contradiction
    all_goals exact ⟨rfl, by decide, by decide, rfl⟩
  obtain ⟨hblank, hquote, hnumeral, hpunctuation⟩ := hstart
  rw [scanFrom, if_neg (by simp [hblank]), if_neg hquote, if_neg hnumeral, hpunctuation, hc]
  dsimp only
  split
  · next h => rw [Except.ok.inj ((wordTail_append tail rest).symm.trans h)]
  · next h => exact absurd ((wordTail_append tail rest).symm.trans h) (by simp)

/-! ### Pieces of text -/

/-- A piece of text has these tokens, whatever tokens stand in front of it, and whatever stands
behind it as long as that does not go on with a numeral. -/
def Spells (cs : List Char) (tokens : List Token) : Prop :=
  ∀ done rest, Breaks rest → scanFrom done (cs ++ rest) = scanFrom (tokens.reverse ++ done) rest

namespace Spells

variable {cs ds : List Char} {token : Token} {tokens more : List Token}

theorem nil : Spells [] [] :=
  fun _ _ _ => rfl

/-- Pieces of text follow each other if the second does not go on with a numeral. -/
theorem append (h : Spells cs tokens) (hds : Breaks ds) (hmore : Spells ds more) :
    Spells (cs ++ ds) (tokens ++ more) := by
  intro done rest hrest
  have hbreaks : Breaks (ds ++ rest) := by
    cases ds with
    | nil => exact hrest
    | cons c ds => exact hds
  rw [List.append_assoc, h done _ hbreaks, hmore _ rest hrest, List.reverse_append,
    List.append_assoc]

theorem blank (hc : isBlank c = true) (h : Spells cs tokens) : Spells (c :: cs) tokens := by
  intro done rest hrest
  rw [List.cons_append, scanFrom_blank hc, h done rest hrest]

theorem blanks (hds : ∀ c ∈ ds, isBlank c = true) (h : Spells cs tokens) :
    Spells (ds ++ cs) tokens := by
  induction ds with
  | nil => exact h
  | cons c ds ih =>
    exact blank (hds c List.mem_cons_self) (ih fun c hc => hds c (List.mem_cons_of_mem _ hc))

theorem punctuation (hc : punctuation? c = some token) (h : Spells cs tokens) :
    Spells (c :: cs) (token :: tokens) := by
  intro done rest hrest
  rw [List.cons_append, scanFrom_punctuation hc, h _ rest hrest, List.reverse_cons,
    List.append_assoc, List.singleton_append]

theorem quoted (s : String) (h : Spells cs tokens) :
    Spells (Value.quoted s ++ cs) (.text (.ok s) :: tokens) := by
  intro done rest hrest
  rw [List.append_assoc, scanFrom_quoted, h _ rest hrest, List.reverse_cons, List.append_assoc,
    List.singleton_append]

theorem numeral {n : Numeral} (hn : n.Proper) : Spells n.chars [.number n] :=
  fun _ _ hrest => scanFrom_numeral hn hrest

theorem word {tail : List Char} (hc : word? c = some (token, tail)) :
    Spells (c :: tail) [token] :=
  fun _ _ _ => scanFrom_word hc

end Spells

/-- A whole text has the tokens that it spells. -/
theorem scan_ofList {cs : List Char} {tokens : List Token} (h : Spells cs tokens) :
    scan (String.ofList cs) = tokens := by
  have hnil : Breaks [] := fun c hc => by simp at hc
  have hscan := h [] [] hnil
  rw [List.append_nil, List.append_nil, scanFrom, List.reverse_reverse] at hscan
  rw [scan, String.toList_ofList, hscan]

end Token

/-! ### Values -/

namespace Value

/-- The token of a value that is written without brackets. -/
def token : Value → Token
  | bool b => .bool b
  | int n => .number (.ofInt n)
  | float x => if x.isFinite then .number (.ofBinary64 x) else .null
  | text s => .text (.ok s)
  | _ => .null

mutual

/-- The tokens of a value. -/
def tokens : Value → List Token
  | list items => .openList :: (itemTokens items ++ [.closeList])
  | record members => .openRecord :: (memberTokens members ++ [.closeRecord])
  | v => [v.token]

/-- The tokens of the items of a list. -/
def itemTokens : List Value → List Token
  | [] => []
  | [v] => v.tokens
  | v :: rest => v.tokens ++ .comma :: itemTokens rest

/-- The tokens of the members of a record. -/
def memberTokens : List (String × Value) → List Token
  | [] => []
  | [(key, v)] => .text (.ok key) :: .colon :: v.tokens
  | (key, v) :: rest => .text (.ok key) :: .colon :: (v.tokens ++ .comma :: memberTokens rest)

end

open Token (Spells)

theorem spells_scalar (v : Value) : Spells (scalar v) [v.token] := by
  have hnull : Spells "null".toList [.null] := by
    have h : "null".toList = ['n', 'u', 'l', 'l'] := by decide
    exact h ▸ Spells.word rfl
  cases v with
  | bool b =>
    cases b with
    | true =>
      have h : "true".toList = ['t', 'r', 'u', 'e'] := by decide
      rw [scalar, h]
      exact Spells.word rfl
    | false =>
      have h : "false".toList = ['f', 'a', 'l', 's', 'e'] := by decide
      rw [scalar, h]
      exact Spells.word rfl
  | int n =>
    rw [scalar, ← Numeral.chars_ofInt]
    exact Spells.numeral (Numeral.proper_ofInt n)
  | float x =>
    rw [scalar, token]
    split_ifs
    · rw [← Numeral.chars_ofBinary64]
      exact Spells.numeral (Numeral.proper_ofBinary64 x)
    · exact hnull
  | text s =>
    rw [scalar, ← List.append_nil (quoted s)]
    exact Spells.quoted s Spells.nil
  | null | list | record => exact hnull

theorem spells_newLine (depth : ℕ) {cs : List Char} {tokens : List Token} (h : Spells cs tokens) :
    Spells (newLine depth ++ cs) tokens := by
  refine Spells.blanks (fun c hc => ?_) h
  rcases List.mem_cons.1 hc with rfl | hc
  · rfl
  · exact List.eq_of_mem_replicate hc ▸ rfl

theorem breaks_newLine (depth : ℕ) (cs : List Char) : Breaks (newLine depth ++ cs) := by
  rintro c ⟨⟩
  decide

theorem breaks_comma {cs : List Char} : Breaks (',' :: cs) := by
  rintro c ⟨⟩
  decide

mutual

/-- The indented text of a value has its tokens. -/
theorem spells_indentedChars (depth : ℕ) : ∀ v, Spells (indentedChars depth v) v.tokens
  | null => spells_scalar null
  | bool b => spells_scalar (bool b)
  | int n => spells_scalar (int n)
  | float x => spells_scalar (float x)
  | text s => spells_scalar (text s)
  | list [] => Spells.punctuation rfl (Spells.punctuation rfl Spells.nil)
  | list (v :: items) => by
    have hitems := spells_indentedItems (depth + 1) (v :: items)
    have hclose : Spells (newLine depth ++ [']']) [.closeList] :=
      spells_newLine depth (Spells.punctuation rfl Spells.nil)
    -- The line ends behind the last item, so a numeral that stands there does not go on.
    have hbreaks := breaks_newLine depth [']']
    rw [indentedChars, tokens, List.append_assoc, List.append_assoc]
    · exact Spells.punctuation rfl (spells_newLine (depth + 1) (hitems.append hbreaks hclose))
    · exact List.cons_ne_nil _ _
  | record [] => Spells.punctuation rfl (Spells.punctuation rfl Spells.nil)
  | record (member :: members) => by
    have hmembers := spells_indentedMembers (depth + 1) (member :: members)
    have hclose : Spells (newLine depth ++ ['\x7d']) [.closeRecord] :=
      spells_newLine depth (Spells.punctuation rfl Spells.nil)
    have hbreaks := breaks_newLine depth ['\x7d']
    rw [indentedChars, tokens, List.append_assoc, List.append_assoc]
    · exact Spells.punctuation rfl (spells_newLine (depth + 1) (hmembers.append hbreaks hclose))
    · exact List.cons_ne_nil _ _

theorem spells_indentedItems (depth : ℕ) :
    ∀ items, Spells (indentedItems depth items) (itemTokens items)
  | [] => Spells.nil
  | [v] => spells_indentedChars depth v
  | v :: w :: rest => by
    have hrest := spells_newLine depth (spells_indentedItems depth (w :: rest))
    rw [indentedItems, itemTokens]
    · exact (spells_indentedChars depth v).append breaks_comma (Spells.punctuation rfl hrest)
    all_goals exact List.cons_ne_nil _ _

theorem spells_indentedMembers (depth : ℕ) :
    ∀ members, Spells (indentedMembers depth members) (memberTokens members)
  | [] => Spells.nil
  | [(key, v)] =>
    Spells.quoted key (Spells.punctuation rfl (Spells.blank rfl (spells_indentedChars depth v)))
  | (key, v) :: w :: rest => by
    have hrest := spells_newLine depth (spells_indentedMembers depth (w :: rest))
    have hvalue := (spells_indentedChars depth v).append breaks_comma
      (Spells.punctuation rfl hrest)
    rw [indentedMembers, memberTokens]
    · exact Spells.quoted key (Spells.punctuation rfl (Spells.blank rfl hvalue))
    all_goals exact List.cons_ne_nil _ _

end

/-- The indented text of a value has its tokens, and no others. -/
theorem scan_indented (v : Value) : Token.scan v.indented = v.tokens :=
  Token.scan_ofList (spells_indentedChars 0 v)

end Value

end BuildDrift.Json
