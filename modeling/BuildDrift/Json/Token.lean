import BuildDrift.Json.Numeral
import BuildDrift.Text.Hex

/-!
# Tokens of a document

A text is split into brackets, separators, words, numerals and strings. Splitting never fails: a
token that is begun but broken, or a character that starts no token, is itself the last token.
Strings and numerals carry two verdicts, because a value that is passed over is held to less: its
escapes need not be paired surrogates and its numerals may be out of range.

## Main definitions

* `Token`: the tokens, broken ones included.
* `Quote.scan`: the contents of a string.
* `Token.scan`: the tokens of a text.
-/

namespace BuildDrift.Json

/-- A token of a document. -/
inductive Token where
  /-- An opening square bracket. -/
  | openList
  /-- A closing square bracket. -/
  | closeList
  /-- An opening brace. -/
  | openRecord
  /-- A closing brace. -/
  | closeRecord
  /-- A colon. -/
  | colon
  /-- A comma. -/
  | comma
  /-- The word for no value. -/
  | null
  /-- A truth value. -/
  | bool (value : Bool)
  /-- A numeral. -/
  | number (numeral : Numeral)
  /-- A string that ends in its quote: its characters, or what is wrong with its escapes. -/
  | text (content : Except Fault String)
  /-- A string without end: the fault where a string is asked for, and where it is passed over. -/
  | brokenText (asked passed : Fault)
  /-- A word or numeral that is begun but broken, with the faults where it is asked for and where
  it is passed over. -/
  | brokenWord (asked passed : Fault)
  /-- A character that starts no token. -/
  | stray
  deriving Inhabited

/-! ### Strings -/

namespace Quote

/-- What stands behind the opening quote of a string. -/
inductive Scan where
  /-- The string ends: its content, and the text behind it. -/
  | complete (content : Except Fault String) (rest : List Char)
  /-- The string breaks off. -/
  | broken (asked passed : Fault)

/-- The value of four hexadecimal digits. -/
def hex4? (a b c d : Char) : Option Nat :=
  Hex.read? [a, b, c, d]

/-- The fault of an escape of four digits that is not followed by four characters: the text counts
as cut short if fewer than four bytes are left. -/
def shortEscape (rest : List Char) : Fault :=
  if (String.ofList rest).utf8ByteSize < 4 then .cutShort else .grammar

/-- The character behind a backslash that stands for one character. -/
def simpleEscape? (c : Char) : Option Char :=
  match c with
  | '"' => some '"'
  | '\\' => some '\\'
  | '/' => some '/'
  | 'b' => some '\x08'
  | 'f' => some '\x0c'
  | 'n' => some '\n'
  | 'r' => some '\r'
  | 't' => some '\t'
  | _ => none

/-- Whether a number is the first half of a surrogate pair. -/
def isHighSurrogate (n : Nat) : Bool := 0xD800 ≤ n && n ≤ 0xDBFF

/-- Whether a number is the second half of a surrogate pair. -/
def isLowSurrogate (n : Nat) : Bool := 0xDC00 ≤ n && n ≤ 0xDFFF

/-- The character of a surrogate pair. -/
def pair (high low : Nat) : Char :=
  Char.ofNat (0x10000 + (high - 0xD800) * 0x400 + (low - 0xDC00))

/-- Adds a character to a content that has no fault yet; characters are kept last first. -/
def add (content : Except Fault (List Char)) (c : Char) : Except Fault (List Char) :=
  content.map (c :: ·)

/-- Gives a content its first fault. -/
def spoil (content : Except Fault (List Char)) (f : Fault) : Except Fault (List Char) :=
  match content with
  | .ok _ => .error f
  | .error g => .error g

/-- The string breaks off with `f`; an earlier fault of its content comes first where the string
is asked for. -/
def breakOff (content : Except Fault (List Char)) (f : Fault) : Scan :=
  match content with
  | .ok _ => .broken f f
  | .error g => .broken g f

/-- Reads on behind the characters of `content`. -/
def scanFrom (content : Except Fault (List Char)) : List Char → Scan
  | [] => breakOff content .cutShort
  | '"' :: rest => .complete (content.map fun cs => String.ofList cs.reverse) rest
  | ['\\'] => breakOff content .cutShort
  | '\\' :: 'u' :: a :: b :: c :: d :: rest =>
    match hex4? a b c d with
    | none => breakOff content .grammar
    | some n =>
      if isLowSurrogate n then scanFrom (spoil content .grammar) rest
      else if isHighSurrogate n then
        match rest with
        | '\\' :: 'u' :: e :: f :: g :: h :: rest =>
          match hex4? e f g h with
          | none => breakOff content .grammar
          | some m =>
            if isLowSurrogate m then scanFrom (add content (pair n m)) rest
            else scanFrom (spoil content .grammar) ('\\' :: 'u' :: e :: f :: g :: h :: rest)
        | '\\' :: 'u' :: short => breakOff content (shortEscape short)
        | ['\\'] => breakOff content .cutShort
        | [] => breakOff content .cutShort
        | c :: rest => scanFrom (spoil content .grammar) (c :: rest)
      else scanFrom (add content (Char.ofNat n)) rest
  | '\\' :: 'u' :: short => breakOff content (shortEscape short)
  | '\\' :: c :: rest =>
    match simpleEscape? c with
    | some e => scanFrom (add content e) rest
    | none => breakOff content .grammar
  | c :: rest => if c < ' ' then breakOff content .grammar else scanFrom (add content c) rest
termination_by cs => cs.length

/-- The string behind an opening quote. -/
def scan (cs : List Char) : Scan :=
  scanFrom (.ok []) cs

theorem breakOff_ne_complete (content : Except Fault (List Char)) (f : Fault)
    (s : Except Fault String) (rest : List Char) : breakOff content f ≠ .complete s rest := by
  cases content <;> simp [breakOff]

theorem length_of_scanFrom {content : Except Fault (List Char)} {s : Except Fault String}
    {cs rest : List Char} (h : scanFrom content cs = .complete s rest) :
    rest.length < cs.length := by
  fun_induction scanFrom content cs <;> simp_all [breakOff_ne_complete] <;> omega

/-- What follows a string is shorter than the text behind its opening quote. -/
theorem length_of_scan {s : Except Fault String} {cs rest : List Char}
    (h : scan cs = .complete s rest) : rest.length < cs.length :=
  length_of_scanFrom h

end Quote

/-! ### Words and whole texts -/

namespace Token

/-- The text behind a word whose remaining characters are given. -/
def wordTail : List Char → List Char → Except Fault (List Char)
  | [], cs => .ok cs
  | _ :: _, [] => .error .cutShort
  | w :: ws, c :: cs => if w = c then wordTail ws cs else .error .grammar

theorem length_of_wordTail {ws cs rest : List Char} (h : wordTail ws cs = .ok rest) :
    rest.length ≤ cs.length := by
  fun_induction wordTail ws cs with
  | case1 cs => simp_all
  | case2 => simp at h
  | case3 w ws cs ih =>
    have := ih h
    simp only [List.length_cons]
    omega
  | case4 => simp at h

/-- The separator or bracket that a character is. -/
def punctuation? : Char → Option Token
  | '[' => some openList
  | ']' => some closeList
  | '\x7b' => some openRecord
  | '\x7d' => some closeRecord
  | ':' => some colon
  | ',' => some comma
  | _ => none

/-- The word that a character begins, with the characters that have to follow. -/
def word? : Char → Option (Token × List Char)
  | 'n' => some (null, ['u', 'l', 'l'])
  | 't' => some (bool true, ['r', 'u', 'e'])
  | 'f' => some (bool false, ['a', 'l', 's', 'e'])
  | _ => none

/-- Whether a character only separates tokens. -/
def isBlank (c : Char) : Bool :=
  c = ' ' || c = '\n' || c = '\t' || c = '\r'

/-- The tokens of a text behind the tokens `done`, which are kept last first. -/
def scanFrom (done : List Token) : List Char → List Token
  | [] => done.reverse
  | c :: cs =>
    if isBlank c then scanFrom done cs
    else if c = '"' then
      match h : Quote.scan cs with
      | .complete content rest =>
        have := Quote.length_of_scan h
        scanFrom (text content :: done) rest
      | .broken asked passed => (brokenText asked passed :: done).reverse
    else if c = '-' ∨ c.isDigit then
      match h : Numeral.scan (c :: cs) with
      | .complete numeral rest =>
        have := Numeral.length_of_scan h
        scanFrom (number numeral :: done) rest
      | .broken asked passed => (brokenWord asked passed :: done).reverse
    else
      match punctuation? c, word? c with
      | some token, _ => scanFrom (token :: done) cs
      | none, some (token, tail) =>
        match h : wordTail tail cs with
        | .ok rest =>
          have := length_of_wordTail h
          scanFrom (token :: done) rest
        | .error f => (brokenWord f f :: done).reverse
      | none, none => (stray :: done).reverse
termination_by cs => cs.length
decreasing_by all_goals simp_all <;> omega

/-- The tokens of a text. -/
def scan (text : String) : List Token :=
  scanFrom [] text.toList

end Token

end BuildDrift.Json
