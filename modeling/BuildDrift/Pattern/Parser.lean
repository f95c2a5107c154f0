import BuildDrift.Pattern.CharClass
import BuildDrift.Pattern.NormalForm
import BuildDrift.Text.Blank
import BuildDrift.Unicode.Latest

/-!
# Reading regular expressions

The text of a regular expression is read once, left to right. Flags such as `(?i)` hold to the end
of the group that they stand in. Reading fails if the text is no expression, if it refers back to
a group or looks around, if it could match something other than characters, or if it nests too
deeply.

## Main definitions

* `Flags`: the flags in force.
* `ClassReader`: bracketed classes, with their ranges, set operations and nested classes.
* `Expression.parse?`: the expression that a text stands for.
-/

namespace BuildDrift.Pattern

/-! ### Flags and blanks -/

/-- The flags in force. -/
structure Flags where
  /-- Characters match up to case. -/
  ignoreCase : Bool := false
  /-- The anchors match at lines. -/
  multiLine : Bool := false
  /-- The dot matches line ends. -/
  dotAll : Bool := false
  /-- Lines also end in carriage returns. -/
  carriageReturn : Bool := false
  /-- Classes hold the characters of every script. -/
  unicode : Bool := true
  /-- Blanks and comments do not count. -/
  extended : Bool := false
  /-- Repetitions try few times first unless a question mark follows them. -/
  swapLazy : Bool := false

namespace Flags

/-- Sets or clears one flag. -/
def set (flags : Flags) (letter : Char) (on : Bool) : Flags :=
  match letter with
  | 'i' => { flags with ignoreCase := on }
  | 'm' => { flags with multiLine := on }
  | 's' => { flags with dotAll := on }
  | 'R' => { flags with carriageReturn := on }
  | 'u' => { flags with unicode := on }
  | 'x' => { flags with extended := on }
  | 'U' => { flags with swapLazy := on }
  | _ => flags

/-- The units of the classes. -/
def units (flags : Flags) : Units :=
  if flags.unicode then .characters else .bytes

/-- The characters behind blanks and comments, if those do not count. -/
def skipFrom (inComment : Bool) : List Char → List Char
  | [] => []
  | c :: cs =>
    if inComment then skipFrom (c != '\n') cs
    else if Blank.isBlank c then skipFrom false cs
    else if c = '#' then skipFrom true cs
    else c :: cs

/-- The characters that count next. -/
def skip (flags : Flags) (cs : List Char) : List Char :=
  if flags.extended then skipFrom false cs else cs

/-- The character that stands behind the first one, blanks left out. -/
def peek (flags : Flags) : List Char → Option Char
  | [] => none
  | _ :: cs =>
    if flags.extended then
      match cs.dropWhile Blank.isBlank with
      | '#' :: rest => (rest.dropWhile Blank.isBlank).head?
      | rest => rest.head?
    else cs.head?

/-- Reads flag letters up to a colon or closing parenthesis: the letters with whether each is set,
the character that ends them, and the rest. No letter and no minus sign may be repeated, and
something has to follow a minus sign. -/
def read (letters : List (Char × Bool)) (minus dangling : Bool) :
    List Char → Option (List (Char × Bool) × Char × List Char)
  | [] => none
  | c :: cs =>
    if c = ':' ∨ c = ')' then if dangling then none else some (letters.reverse, c, cs)
    else if c = '-' then if minus then none else read letters true true cs
    else if ['i', 'm', 's', 'U', 'u', 'R', 'x'].contains c ∧ (letters.lookup c).isNone then
      read ((c, !minus) :: letters) minus false cs
    else none

end Flags

/-! ### Single characters and classes behind a backslash -/

/-- What a single item of an expression can be. -/
inductive Primitive where
  /-- A character. -/
  | char (c : Char)
  /-- A class of characters. -/
  | set (s : CodePointSet)
  /-- A condition on the position. -/
  | look (condition : Look)

namespace Primitive

/-- The character of a number, if there is one. -/
def scalar? (n : Nat) : Option Char :=
  if n < 0xD800 ∨ (0xE000 ≤ n ∧ n ≤ 0x10FFFF) then some (Char.ofNat n) else none

/-- The given number of hexadecimal digits, and the rest. -/
def hexDigits (flags : Flags) : Nat → List Char → Option (List Char × List Char)
  | 0, cs => some ([], cs)
  | _ + 1, [] => none
  | n + 1, c :: cs =>
    if (Hex.digitValue? c).isSome then
      (hexDigits flags n (flags.skip cs)).map fun (ds, rest) => (c :: ds, rest)
    else none

/-- The characters up to a closing brace, and the rest behind it. -/
def braced (flags : Flags) (fuel : Nat) (cs : List Char) : Option (List Char × List Char) :=
  match fuel, flags.skip cs with
  | 0, _ | _, [] => none
  | _ + 1, '\x7d' :: rest => some ([], rest)
  | fuel + 1, c :: rest => (braced flags fuel rest).map fun (ds, rest) => (c :: ds, rest)

/-- A character given by its number in base sixteen. A byte that is no character on its own cannot
be given. -/
def hexEscape (flags : Flags) (width : Nat) (cs : List Char) : Option (Primitive × List Char) :=
  match flags.skip cs with
  | '\x7b' :: rest => do
    let (digits, rest) ← braced flags (rest.length + 1) rest
    let n ← Hex.read? digits
    let c ← scalar? n
    some (char c, flags.skip rest)
  | rest => do
    let (digits, rest) ← hexDigits flags width rest
    let n ← Hex.read? digits
    let c ← scalar? n
    if width = 2 ∧ !flags.unicode ∧ 0x7F < n then none else some (char c, rest)

/-- The parts of a text before and behind the first occurrence of a separator. -/
def splitAt? (separator : List Char) : List Char → Option (List Char × List Char)
  | [] => none
  | c :: cs =>
    if separator.isPrefixOf (c :: cs) then some ([], (c :: cs).drop separator.length)
    else (splitAt? separator cs).map fun (a, b) => (c :: a, b)

/-- The class of a property name with or without a value, and whether it is negated. -/
def propertyQuery (name : List Char) : Option (CodePointSet × Bool) :=
  match splitAt? ['!', '='] name with
  | some (property, value) => (CharClass.propertyValue? property value).map fun s => (s, true)
  | none =>
    match (splitAt? [':'] name).orElse fun _ => splitAt? ['='] name with
    | some (property, value) => (CharClass.propertyValue? property value).map fun s => (s, false)
    | none => (CharClass.property? name).map fun s => (s, false)

/-- Negates a class of every script. -/
def negateIf (negated : Bool) (s : CodePointSet) : CodePointSet :=
  if negated then s.negate else s.normalize

/-- A class of the character database. -/
def propertyClass (flags : Flags) (negated : Bool) (cs : List Char) :
    Option (Primitive × List Char) := do
  let (name, rest) ←
    match flags.skip cs with
    | [] => none
    | '\x7b' :: rest => braced flags (rest.length + 1) rest
    | '\\' :: _ => none
    | c :: rest => some ([c], flags.skip rest)
  let (s, flipped) ← propertyQuery name
  if !flags.unicode then none
  else
    let s := if flags.ignoreCase then CharClass.closeCase true s else s
    some (set (negateIf (negated != flipped) s), rest)

/-- A class of digits, blanks or word characters; negated ones hold the characters of every
script. -/
def perlClass (flags : Flags) (letter : Char) : Option Primitive :=
  let s := CharClass.perl flags.unicode letter.toLower
  if !letter.isUpper then some (set s)
  else if flags.unicode then some (set s.negate)
  else none

/-- The words of the current flags. -/
def words (flags : Flags) : WordClass :=
  if flags.unicode then .unicode else .ascii

/-- The name between the braces of a word boundary: letters and hyphens. -/
def boundaryName (flags : Flags) (fuel : Nat) (cs : List Char) : List Char × List Char :=
  match fuel, flags.skip cs with
  | fuel + 1, c :: rest =>
    if c.isAlpha || c = '-' then
      let (name, rest) := boundaryName flags fuel rest
      (c :: name, rest)
    else ([], c :: rest)
  | _, rest => ([], rest)

/-- A word boundary, possibly a special one. A brace that cannot name one belongs to a
repetition. -/
def boundary (flags : Flags) (cs : List Char) : Option (Primitive × List Char) :=
  let w := words flags
  match cs with
  | '\x7b' :: rest =>
    match flags.skip rest with
    | [] => none
    | c :: _ =>
      if !(c.isAlpha || c = '-') then some (look (.boundary w), cs)
      else
        let (name, rest) := boundaryName flags (rest.length + 1) rest
        match rest, String.ofList name with
        | '\x7d' :: rest, "start" => some (look (.wordStart w), rest)
        | '\x7d' :: rest, "end" => some (look (.wordStop w), rest)
        | '\x7d' :: rest, "start-half" => some (look (.halfStart w), rest)
        | '\x7d' :: rest, "end-half" => some (look (.halfStop w), rest)
        | _, _ => none
  | _ => some (look (.boundary w), cs)

/-- What stands behind a backslash. -/
def escape (flags : Flags) : List Char → Option (Primitive × List Char)
  | [] => none
  | c :: cs =>
    match c with
    | 'x' => hexEscape flags 2 cs
    | 'u' => hexEscape flags 4 cs
    | 'U' => hexEscape flags 8 cs
    | 'p' => propertyClass flags false cs
    | 'P' => propertyClass flags true cs
    | 'd' | 's' | 'w' | 'D' | 'S' | 'W' => (perlClass flags c).map fun p => (p, cs)
    | 'a' => some (char '\x07', cs)
    | 'f' => some (char '\x0c', cs)
    | 't' => some (char '\t', cs)
    | 'n' => some (char '\n', cs)
    | 'r' => some (char '\r', cs)
    | 'v' => some (char '\x0b', cs)
    | 'A' => some (look .start, cs)
    | 'z' => some (look .stop, cs)
    | 'b' => boundary flags cs
    | 'B' => some (look (.notBoundary (words flags)), cs)
    | '<' => some (look (.wordStart (words flags)), cs)
    | '>' => some (look (.wordStop (words flags)), cs)
    | _ => if c.toNat < 128 && !c.isAlphanum then some (char c, cs) else none

end Primitive

/-! ### Bracketed classes -/

/-- An operation between the parts of a class. -/
inductive SetOperation where
  /-- The characters of both parts. -/
  | both
  /-- The characters of the first part only. -/
  | minus
  /-- The characters of exactly one part. -/
  | either

/-- The result of an operation between sets. -/
def SetOperation.apply (op : SetOperation) (s t : CodePointSet) : CodePointSet :=
  match op with
  | both => s.inter t
  | minus => s.diff t
  | either => s.symmDiff t

/-- A class that is being read. -/
structure ClassReader where
  /-- Whether the class holds the characters that are not in the set. -/
  negated : Bool
  /-- The left side of an operation, with its nesting. -/
  left : Option (SetOperation × CodePointSet × Nat) := none
  /-- The characters since the last operation. -/
  items : CodePointSet := .empty
  /-- How many items they come from. -/
  count : Nat := 0
  /-- The nesting of these items. -/
  depth : Nat := 0

namespace ClassReader

/-- Adds an item. -/
def add (r : ClassReader) (s : CodePointSet) (depth : Nat) : ClassReader :=
  { r with items := r.items.union s, count := r.count + 1, depth := max r.depth depth }

/-- The set read so far, with its nesting. -/
def total (flags : Flags) (r : ClassReader) : CodePointSet × Nat :=
  let depth := if 1 < r.count then r.depth + 1 else r.depth
  let close (s : CodePointSet) : CodePointSet :=
    if flags.ignoreCase then CharClass.closeCase flags.unicode s else s
  match r.left with
  | none => (r.items, depth)
  | some (op, s, d) => (op.apply (close s) (close r.items), max d depth + 1)

/-- Begins the right side of an operation. -/
def operate (flags : Flags) (r : ClassReader) (op : SetOperation) : ClassReader :=
  let (s, depth) := r.total flags
  { negated := r.negated, left := some (op, s, depth) }

/-- The class, once its closing bracket is reached. A negated class holds the characters of every
script. -/
def finish (flags : Flags) (r : ClassReader) : Option (CodePointSet × Nat) :=
  let (s, depth) := r.total flags
  let s := if flags.ignoreCase then CharClass.closeCase flags.unicode s else s
  if r.negated ∧ !flags.unicode then none
  else some (Primitive.negateIf r.negated s, depth + 1)

/-- Reads what stands behind an opening bracket: a caret, hyphens, and a closing bracket that
stands for itself. -/
def openHyphens (flags : Flags) (r : ClassReader) (fuel : Nat) (cs : List Char) :
    Option (ClassReader × List Char) :=
  match fuel, cs with
  | 0, _ | _, [] => none
  | fuel + 1, '-' :: rest => openHyphens flags (r.add (.single '-') 0) fuel (flags.skip rest)
  | _, ']' :: rest =>
    if r.count = 0 then
      match flags.skip rest with
      | [] => none
      | rest => some (r.add (.single ']') 0, rest)
    else some (r, ']' :: rest)
  | _, rest => some (r, rest)

/-- Begins a class behind its opening bracket. -/
def start (flags : Flags) (cs : List Char) : Option (ClassReader × List Char) :=
  match flags.skip cs with
  | '^' :: rest => openHyphens flags { negated := true } (rest.length + 1) (flags.skip rest)
  | rest => openHyphens flags { negated := false } (rest.length + 1) rest

/-- A class named between brackets and colons, behind the opening bracket. -/
def posix? (flags : Flags) (cs : List Char) : Option (Option CodePointSet × List Char) :=
  match cs with
  | ':' :: rest =>
    let (negated, rest) := match rest with
      | '^' :: rest => (true, rest)
      | rest => (false, rest)
    let name := rest.takeWhile (· != ':')
    match rest.dropWhile (· != ':') with
    | ':' :: ']' :: rest =>
      (CharClass.posix? (String.ofList name)).map fun s =>
        let s := if flags.ignoreCase then CharClass.closeCase flags.unicode s else s
        (if negated ∧ !flags.unicode then none else some (Primitive.negateIf negated s), rest)
    | _ => none
  | _ => none

/-- One character or class of a bracketed class. -/
def item (flags : Flags) : List Char → Option (Primitive × List Char)
  | [] => none
  | '\\' :: rest => Primitive.escape flags rest
  | c :: rest => some (.char c, rest)

/-- A character of a class; with ASCII classes it has to be one of ASCII. -/
def member? (flags : Flags) : Primitive → Option Char
  | .char c => if !flags.unicode && 0x7F < c.toNat then none else some c
  | _ => none

/-- An item or a range of characters. -/
def range (flags : Flags) (cs : List Char) : Option (CodePointSet × List Char) := do
  let (first, rest) ← item flags cs
  let rest := flags.skip rest
  let single : Option (CodePointSet × List Char) :=
    match first with
    | .set s => some (s, rest)
    | first => (member? flags first).map fun c => (.single c, rest)
  match rest with
  | [] => none
  | '-' :: more =>
    if flags.peek rest = some ']' ∨ flags.peek rest = some '-' then single
    else
      let (last, rest) ← item flags (flags.skip more)
      let a ← member? flags first
      let b ← member? flags last
      if a ≤ b then some (.range a.toNat b.toNat, rest) else none
  | _ => single

/-- Reads a class to its closing bracket, inside the classes that are open around it. The set
comes with its nesting. -/
def read (flags : Flags) (fuel : Nat) (r : ClassReader) (outer : List ClassReader)
    (cs : List Char) : Option ((CodePointSet × Nat) × List Char) :=
  match fuel with
  | 0 => none
  | fuel + 1 =>
    match flags.skip cs with
    | [] => none
    | '[' :: rest =>
      match posix? flags rest with
      | some (none, _) => none
      | some (some s, rest) => read flags fuel (r.add s 0) outer rest
      | none => do
        let (inner, rest) ← start flags rest
        read flags fuel inner (r :: outer) rest
    | ']' :: rest => do
      let (s, depth) ← r.finish flags
      match outer with
      | [] => some ((s, depth), rest)
      | next :: outer => read flags fuel (next.add s depth) outer rest
    | '&' :: '&' :: rest => read flags fuel (r.operate flags .both) outer rest
    | '-' :: '-' :: rest => read flags fuel (r.operate flags .minus) outer rest
    | '~' :: '~' :: rest => read flags fuel (r.operate flags .either) outer rest
    | rest => do
      let (s, rest) ← range flags rest
      read flags fuel (r.add s 0) outer rest

end ClassReader

/-! ### Expressions -/

/-- A part of an expression, with its nesting. -/
structure Part where
  /-- The expression. -/
  expression : Expression
  /-- How deeply it nests. -/
  depth : Nat := 0
  /-- Whether a repetition may follow: not behind flags. -/
  repeatable : Bool := true

/-- A group that is being read, or the whole expression. -/
structure Level where
  /-- The finished choices, last first. -/
  choices : List Part := []
  /-- The parts of the current choice, last first. -/
  parts : List Part := []

/-- Where a reading stands. -/
structure Reading where
  /-- The innermost open group. -/
  level : Level := {}
  /-- The flags in force. -/
  flags : Flags := {}
  /-- The groups around it, innermost first: each with the flags in force around the next one and
  the number of that one, if its text is of interest. -/
  outer : List (Level × Flags × Option Nat) := []
  /-- How many groups whose text is of interest have been opened. -/
  groups : Nat := 0
  /-- The names of groups met so far. -/
  names : List String := []

namespace Level

/-- One expression for several parts in a row or to choose from. -/
def join (combine : List Expression → Expression) (parts : List Part) : Part :=
  match parts with
  | [] => ⟨.empty, 0, true⟩
  | [part] => part
  | parts =>
    ⟨combine (parts.reverse.map Part.expression),
      parts.foldl (fun d part => max d part.depth) 0 + 1, true⟩

/-- The current choice as one part. -/
def choice (l : Level) : Part :=
  join .row l.parts

/-- The whole level as one part. -/
def total (l : Level) : Part :=
  match l.choices with
  | [] => l.choice
  | choices => join .choice (l.choice :: choices)

/-- Begins another choice. -/
def next (l : Level) : Level :=
  ⟨l.choice :: l.choices, []⟩

/-- Adds a part. -/
def push (l : Level) (part : Part) : Level :=
  { l with parts := part :: l.parts }

/-- Repeats the last part. -/
def repeatLast (l : Level) (min : Nat) (max : Option Nat) (lazy : Bool) : Option Level :=
  match l.parts with
  | [] => none
  | part :: rest =>
    if part.repeatable then
      let e := part.expression.repetition min max lazy
      some { l with parts := ⟨e, part.depth + 1, true⟩ :: rest }
    else none

end Level

namespace Reading

/-- Adds a part without nesting. -/
def push (r : Reading) (e : Expression) : Reading :=
  { r with level := r.level.push ⟨e, 0, true⟩ }

/-- A character as an expression. -/
def charExpression (flags : Flags) (c : Char) : Expression :=
  let single := CodePointSet.single c
  if flags.ignoreCase then .ofSet flags.units (CharClass.closeCase flags.unicode single)
  else .ofChar c

/-- A single item as an expression. -/
def primitiveExpression (flags : Flags) : Primitive → Expression
  | .char c => charExpression flags c
  | .set s => .ofSet flags.units s
  | .look condition => .look condition

/-- Any character, line ends apart; with ASCII classes a dot could match a part of a character. -/
def dot (flags : Flags) : Option Expression :=
  if !flags.unicode then none
  else if flags.dotAll then some (.chars .characters .all)
  else if flags.carriageReturn then
    some (.chars .characters (CodePointSet.complement ⟨[(0x0A, 0x0A), (0x0D, 0x0D)]⟩))
  else some (.chars .characters (CodePointSet.complement (.single '\n')))

/-- The condition of a caret. -/
def caret (flags : Flags) : Look :=
  if !flags.multiLine then .start else if flags.carriageReturn then .lineStartCR else .lineStart

/-- The condition of a dollar sign. -/
def dollar (flags : Flags) : Look :=
  if !flags.multiLine then .stop else if flags.carriageReturn then .lineStopCR else .lineStop

/-- A number between blanks, below `2 ^ 32`. -/
def decimal (flags : Flags) (cs : List Char) : Option (Nat × List Char) :=
  let rec digits (fuel : Nat) (cs : List Char) : List Char × List Char :=
    match fuel, cs with
    | fuel + 1, c :: rest =>
      if c.isDigit then
        let (ds, rest) := digits fuel (flags.skip rest)
        (c :: ds, rest)
      else ([], c :: rest)
    | _, rest => ([], rest)
  let start := cs.dropWhile Blank.isBlank
  let (ds, rest) := digits (start.length + 1) start
  let n := Nat.ofDigitChars 10 ds 0
  if ds.isEmpty ∨ UInt32.size ≤ n then none
  else some (n, flags.skip (rest.dropWhile Blank.isBlank))

/-- Whether a repetition tries few times first, by a question mark behind it, and what follows. -/
def takeLazy (flags : Flags) : List Char → Bool × List Char
  | '?' :: rest => (!flags.swapLazy, rest)
  | rest => (flags.swapLazy, rest)

/-- The bounds of a repetition, behind its opening brace. -/
def counted (flags : Flags) (cs : List Char) : Option (Nat × Option Nat × List Char) := do
  let (min, rest) ← decimal flags (flags.skip cs)
  match rest with
  | '\x7d' :: rest => some (min, some min, flags.skip rest)
  | ',' :: rest =>
    match flags.skip rest with
    | '\x7d' :: rest => some (min, none, flags.skip rest)
    | rest =>
      let (max, rest) ← decimal flags rest
      match rest with
      | '\x7d' :: rest =>
        if min ≤ max then some (min, some max, flags.skip rest) else none
      | _ => none
  | _ => none

/-- Whether a character may stand in the name of a group. -/
def isNameChar (first : Bool) (c : Char) : Bool :=
  c = '_' || if first then Latest.alphabetic.contains c
    else c = '.' || c = '[' || c = ']' || Latest.alphanumeric.contains c

/-- The name of a group, which ends in an angle bracket. -/
def groupName (cs : List Char) : Option (String × List Char) :=
  let name := cs.takeWhile (· != '>')
  match name, cs.dropWhile (· != '>') with
  | c :: tail, _ :: rest =>
    if isNameChar true c && tail.all (isNameChar false) then some (String.ofList name, rest)
    else none
  | _, _ => none

/-- Repeats the last part, in front of a text that may begin with a question mark. -/
def repeatLast (r : Reading) (min : Nat) (max : Option Nat) (cs : List Char) :
    Option (Reading × List Char) :=
  let (lazy, rest) := takeLazy r.flags cs
  (r.level.repeatLast min max lazy).map fun l => ({ r with level := l }, rest)

/-- Opens a group. -/
def openGroup (r : Reading) (flags : Flags) (capturing : Bool) : Reading :=
  let groups := if capturing then r.groups + 1 else r.groups
  let number := if capturing then some groups else none
  { r with
    level := {}, flags := flags, groups := groups
    outer := (r.level, r.flags, number) :: r.outer }

/-- Opens a group with a name, which may not be taken. -/
def openNamed (r : Reading) (cs : List Char) : Option (Reading × List Char) := do
  let (name, rest) ← groupName cs
  if r.names.contains name then none
  else some ({ r with names := name :: r.names }.openGroup r.flags true, rest)

/-- What stands behind an opening parenthesis: a group, or flags for the rest of the group. -/
def parenthesis (r : Reading) (cs : List Char) : Option (Reading × List Char) :=
  match r.flags.skip cs with
  | '?' :: '=' :: _ | '?' :: '!' :: _ | '?' :: '<' :: '=' :: _ | '?' :: '<' :: '!' :: _ => none
  | '?' :: 'P' :: '<' :: rest | '?' :: '<' :: rest => r.openNamed rest
  | '?' :: rest => do
    let (letters, ending, rest) ← Flags.read [] false false rest
    let flags := letters.foldl (fun flags (letter, on) => flags.set letter on) r.flags
    if ending = ':' then some (r.openGroup flags false, rest)
    else if letters.isEmpty then none
    else
      some ({ r with flags := flags, level := r.level.push ⟨.empty, 0, false⟩ }, rest)
  | rest => some (r.openGroup r.flags true, rest)

/-- Closes the innermost group. -/
def closeGroup (r : Reading) : Option Reading :=
  match r.outer with
  | [] => none
  | (level, flags, number) :: outer =>
    let body := r.level.total
    let e := match number with
      | some n => .group n body.expression
      | none => body.expression
    some { r with level := level.push ⟨e, body.depth + 1, true⟩, flags := flags, outer := outer }

/-- Reads one item. -/
def step (r : Reading) : List Char → Option (Reading × List Char)
  | [] => none
  | '(' :: rest => r.parenthesis rest
  | ')' :: rest => r.closeGroup.map fun r => (r, rest)
  | '|' :: rest => some ({ r with level := r.level.next }, rest)
  | '[' :: rest => do
    let (first, rest) ← ClassReader.start r.flags rest
    let ((s, depth), rest) ← ClassReader.read r.flags (rest.length + 1) first [] rest
    some ({ r with level := r.level.push ⟨.ofSet r.flags.units s, depth, true⟩ }, rest)
  | '?' :: rest => r.repeatLast 0 (some 1) rest
  | '*' :: rest => r.repeatLast 0 none rest
  | '+' :: rest => r.repeatLast 1 none rest
  | '\x7b' :: rest => do
    let (min, max, rest) ← counted r.flags rest
    r.repeatLast min max rest
  | '\\' :: rest => do
    let (p, rest) ← Primitive.escape r.flags rest
    some (r.push (primitiveExpression r.flags p), rest)
  | '.' :: rest => (dot r.flags).map fun e => (r.push e, rest)
  | '^' :: rest => some (r.push (.look (caret r.flags)), rest)
  | '$' :: rest => some (r.push (.look (dollar r.flags)), rest)
  | c :: rest => some (r.push (charExpression r.flags c), rest)

/-- Reads to the end, where no group may be open. -/
def run (fuel : Nat) (r : Reading) (cs : List Char) : Option Part :=
  match fuel, r.flags.skip cs with
  | _, [] => if r.outer.isEmpty then some r.level.total else none
  | 0, _ => none
  | fuel + 1, cs => (r.step cs).bind fun (r, rest) => run fuel r rest

end Reading

/-- How deeply an expression may nest. -/
def greatestDepth : Nat := 250

/-- The expression that a text stands for. -/
def Expression.parse? (text : String) : Option Expression :=
  let cs := text.toList
  (Reading.run cs.length {} cs).bind fun part =>
    if part.depth ≤ greatestDepth then some part.expression else none

end BuildDrift.Pattern
