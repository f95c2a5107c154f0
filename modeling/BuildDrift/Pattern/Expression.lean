import BuildDrift.Unicode.CharProperty

/-!
# Regular expressions

A regular expression is built from fixed texts, character sets and conditions on a position by
sequence, choice and repetition. Conditions look at the two characters around a position.

## Main definitions

* `Look`: the conditions on a position, and `Look.holds`.
* `Expression`: the expressions.
* `Expression.same`: whether two expressions are written alike.
* `Expression.minLength?`, `maxLength?`: how many bytes a matching text has.
* `Expression.startsAnchored`, `stopsAnchored`: whether every match is tied to an end of the text.
-/

namespace BuildDrift.Pattern

/-! ### Positions -/

/-- The characters around a position. -/
structure Surroundings where
  /-- The character in front, if the position is not the start. -/
  before : Option Char
  /-- The character behind, if the position is not the end. -/
  after : Option Char

/-- Which characters count as parts of words. -/
inductive WordClass where
  /-- Letters, digits and the underscore of ASCII. -/
  | ascii
  /-- Word characters of every script. -/
  | unicode
  deriving DecidableEq, Repr

/-- The word characters of ASCII. -/
def asciiWord : CodePointSet :=
  ⟨[(0x30, 0x39), (0x41, 0x5A), (0x5F, 0x5F), (0x61, 0x7A)]⟩

/-- The characters of a word class. -/
def WordClass.set : WordClass → CodePointSet
  | ascii => asciiWord
  | unicode => CharProperty.word

/-- A condition on a position. -/
inductive Look where
  /-- The start of the text. -/
  | start
  /-- The end of the text. -/
  | stop
  /-- The start of a line, where lines end in a line feed. -/
  | lineStart
  /-- The end of a line, where lines end in a line feed. -/
  | lineStop
  /-- The start of a line, where lines end in a carriage return, a line feed, or both. -/
  | lineStartCR
  /-- The end of a line, where lines end in a carriage return, a line feed, or both. -/
  | lineStopCR
  /-- A word on exactly one side. -/
  | boundary (words : WordClass)
  /-- A word on both sides or on none. -/
  | notBoundary (words : WordClass)
  /-- A word behind and none in front. -/
  | wordStart (words : WordClass)
  /-- A word in front and none behind. -/
  | wordStop (words : WordClass)
  /-- No word in front. -/
  | halfStart (words : WordClass)
  /-- No word behind. -/
  | halfStop (words : WordClass)
  deriving DecidableEq, Repr

/-- Whether a side of a position belongs to a word. -/
def WordClass.covers (words : WordClass) (side : Option Char) : Bool :=
  side.any words.set.contains

/-- Whether a condition holds at a position. -/
def Look.holds (s : Surroundings) : Look → Bool
  | start => s.before.isNone
  | stop => s.after.isNone
  | lineStart => s.before.all (· == '\n')
  | lineStop => s.after.all (· == '\n')
  | lineStartCR => s.before.all fun c => c == '\n' || (c == '\r' && s.after != some '\n')
  | lineStopCR => s.after.all fun c => c == '\r' || (c == '\n' && s.before != some '\r')
  | boundary w => w.covers s.before != w.covers s.after
  | notBoundary w => w.covers s.before == w.covers s.after
  | wordStart w => !w.covers s.before && w.covers s.after
  | wordStop w => w.covers s.before && !w.covers s.after
  | halfStart w => !w.covers s.before
  | halfStop w => !w.covers s.after

/-! ### Expressions -/

/-- The units in which a character set was written. A set of bytes holds characters of ASCII. -/
inductive Units where
  /-- Characters of every script. -/
  | characters
  /-- Single bytes. -/
  | bytes
  deriving DecidableEq, Repr

/-- A regular expression. -/
inductive Expression where
  /-- The empty text. -/
  | empty
  /-- A fixed text. -/
  | text (characters : List Char)
  /-- One character of a set. -/
  | chars (units : Units) (set : CodePointSet)
  /-- The empty text at a position that meets a condition. -/
  | look (condition : Look)
  /-- A group whose text is of interest, numbered by its opening parenthesis. -/
  | group (number : Nat) (body : Expression)
  /-- One after the other. -/
  | seq (parts : List Expression)
  /-- One of several. -/
  | alt (choices : List Expression)
  /-- At least `min` times and at most `max` times, if there is a greatest number; `lazy` says
  whether few times are tried first. -/
  | times (body : Expression) (min : Nat) (max : Option Nat) (lazy : Bool)
  deriving Inhabited

namespace Expression

/-- What matches no text: one character of the empty set. -/
def nothing : Expression := chars .bytes .empty

/-! ### Comparison and measures -/

mutual

/-- Whether two expressions are written alike. -/
def same : Expression → Expression → Bool
  | empty, empty => true
  | text cs, text ds => cs == ds
  | chars u s, chars v t => u == v && s == t
  | look c, look d => c == d
  | group n a, group m b => n == m && same a b
  | seq as, seq bs => sameAll as bs
  | alt as, alt bs => sameAll as bs
  | times a min max l, times b min' max' l' =>
    min == min' && max == max' && l == l' && same a b
  | _, _ => false

/-- Whether the expressions of two lists are written alike, one by one. -/
def sameAll : List Expression → List Expression → Bool
  | [], [] => true
  | a :: as, b :: bs => same a b && sameAll as bs
  | _, _ => false

end

mutual

/-- How deeply an expression nests. -/
def height : Expression → Nat
  | group _ body => height body + 1
  | seq parts => heightAll parts + 1
  | alt choices => heightAll choices + 1
  | times body _ _ _ => height body + 1
  | _ => 0

/-- How deeply the expressions of a list nest. -/
def heightAll : List Expression → Nat
  | [] => 0
  | e :: rest => max (height e) (heightAll rest)

end

/-- The number of bytes of a character given by its code point. -/
def byteWidth (n : Nat) : Nat :=
  if n < 0x80 then 1 else if n < 0x800 then 2 else if n < 0x10000 then 3 else 4

/-- The number of bytes of some characters. -/
def byteLength (cs : List Char) : Nat :=
  cs.foldl (fun n c => n + c.utf8Size) 0

mutual

/-- The least number of bytes of a matching text; none if nothing can match. -/
def minLength? : Expression → Option Nat
  | empty => some 0
  | text cs => some (byteLength cs)
  | chars _ s => s.ranges.head?.map fun r => byteWidth r.1
  | look _ => some 0
  | group _ body => minLength? body
  | seq parts => (minLengths? parts).map fun ns => ns.foldl (· + ·) 0
  | alt choices => (minLengths? choices).bind List.min?
  | times body min _ _ => (minLength? body).map (· * min)

/-- The least numbers of bytes for the expressions of a list; none if one of them cannot match. -/
def minLengths? : List Expression → Option (List Nat)
  | [] => some []
  | e :: rest => (minLength? e).bind fun n => (minLengths? rest).map (n :: ·)

end

mutual

/-- The greatest number of bytes of a matching text; none if there is no greatest number or nothing
can match. -/
def maxLength? : Expression → Option Nat
  | empty => some 0
  | text cs => some (byteLength cs)
  | chars _ s => s.ranges.getLast?.map fun r => byteWidth r.2
  | look _ => some 0
  | group _ body => maxLength? body
  | seq parts => (maxLengths? parts).map fun ns => ns.foldl (· + ·) 0
  | alt choices => (maxLengths? choices).bind List.max?
  | times body _ max _ => max.bind fun n => (maxLength? body).map (· * n)

/-- The greatest numbers of bytes for the expressions of a list; none if one of them has none. -/
def maxLengths? : List Expression → Option (List Nat)
  | [] => some []
  | e :: rest => (maxLength? e).bind fun n => (maxLengths? rest).map (n :: ·)

end

/-- Whether an expression matches the empty text at most. -/
def isBlank (e : Expression) : Bool :=
  maxLength? e == some 0

mutual

/-- Whether every match begins at the start of the text, as far as the leading conditions say. -/
def startsAnchored : Expression → Bool
  | look condition => condition == .start
  | group _ body => startsAnchored body
  | seq parts => leadsAnchored parts
  | alt choices => allStartAnchored choices
  | times body min _ _ => 0 < min && startsAnchored body
  | _ => false

/-- Whether a condition in front of the first part that takes characters ties a row to the start of
the text. -/
def leadsAnchored : List Expression → Bool
  | [] => false
  | e :: rest => startsAnchored e || (isBlank e && leadsAnchored rest)

/-- Whether all the expressions of a list are tied to the start of the text. -/
def allStartAnchored : List Expression → Bool
  | [] => true
  | e :: rest => startsAnchored e && allStartAnchored rest

end

mutual

/-- Whether every match stops at the end of the text, as far as the trailing conditions say. -/
def stopsAnchored : Expression → Bool
  | look condition => condition == .stop
  | group _ body => stopsAnchored body
  | seq parts => trailsAnchored parts
  | alt choices => allStopAnchored choices
  | times body min _ _ => 0 < min && stopsAnchored body
  | _ => false

/-- Whether a condition behind the last part that takes characters ties a row to the end of the
text. -/
def trailsAnchored : List Expression → Bool
  | [] => false
  | e :: rest => trailsAnchored rest || (rest.all isBlank && stopsAnchored e)

/-- Whether all the expressions of a list are tied to the end of the text. -/
def allStopAnchored : List Expression → Bool
  | [] => true
  | e :: rest => stopsAnchored e && allStopAnchored rest

end

end Expression

end BuildDrift.Pattern
