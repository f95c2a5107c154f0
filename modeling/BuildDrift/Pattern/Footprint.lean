import BuildDrift.Pattern.Footprint.TextTree
import BuildDrift.Pattern.Footprint.WideSet
import BuildDrift.Pattern.NormalForm

/-!
# The size of a pattern

A pattern is refused if one of its machines takes up too many bytes. There are two machines, one
that reads texts forwards and one that reads them backwards. Only the first keeps track of groups.
Each is made part by part, in the order in which it meets the parts of the expression. Of a
repetition, the body is made as often as it may occur. A choice between very many fixed texts is
searched by a table of texts and needs no machine.

## Main definitions

* `Footprint.Blueprint`: how a machine is made; `Blueprint.ofExpression`.
* `Blueprint.build`: what a machine takes up.
* `Footprint.fits`: whether an expression takes up no more bytes than allowed.
-/

namespace BuildDrift.Pattern.Footprint

/-- How a part of a machine is made. -/
inductive Blueprint where
  /-- A part that takes up the same wherever it is made. -/
  | known (usage : Usage)
  /-- A set beyond ASCII, by its sequences of byte ranges. -/
  | wide (sequences : List ByteSequence)
  /-- One part after the other. -/
  | row (parts : List Blueprint)
  /-- The same part a number of times. -/
  | copies (n : Nat) (body : Blueprint)
  deriving Inhabited

namespace Blueprint

/-! ### Blueprints of expressions -/

/-- Joins neighbouring parts that take up the same everywhere. -/
def joinKnown : List Blueprint → List Blueprint
  | [] => []
  | known u :: rest =>
    match joinKnown rest with
    | known v :: more => known (u.add v) :: more
    | more => known u :: more
  | b :: rest => b :: joinKnown rest

/-- One part after the other. -/
def inRow (parts : List Blueprint) : Blueprint :=
  match joinKnown parts with
  | [b] => b
  | bs => row bs

/-- The same part a number of times. -/
def many (n : Nat) : Blueprint → Blueprint
  | known u => known (u.scale n)
  | b => copies n b

/-- The same part exactly a number of times; a single state stands for no times. -/
def exactly (n : Nat) (body : Blueprint) : Blueprint :=
  if n = 0 then known (.plain 1) else many n body

/-- A branching state with two ways on. -/
def fork : Blueprint := known (.branching 2)

/-- One character of a set. -/
def ofSet (set : CodePointSet) : Blueprint :=
  if set.isAscii then known ((Usage.plain 1).add (.reading set.ranges.length))
  else wide (ByteSequence.ofSet set)

/-- A choice between fixed texts, if the expressions are all fixed texts. -/
def ofTexts? (direction : Direction) (choices : List Expression) : Option Blueprint :=
  let text? : Expression → Option (List Nat)
    | .text cs => some (direction.order (ByteSequence.bytesOf cs))
    | _ => none
  (choices.mapM text?).map fun texts =>
    known ((Usage.plain 1).add (TextTree.usage (texts.foldl (fun n t => max n t.length) 0) texts))

/-- A choice between parts: the first two are made before the states that they have in common. -/
def ofChoices (choices : List Blueprint) : Blueprint :=
  inRow (choices.take 2 ++
    [known ((Usage.branching choices.length).add (.plain 1))] ++ choices.drop 2)

/-- A repetition of a part; `blank` says whether the part may take up no characters. -/
def ofTimes (body : Blueprint) (blank : Bool) (min : Nat) : Option Nat → Blueprint
  | none =>
    if 0 < min then inRow [many min body, fork]
    else if blank then inRow [body, fork, fork, known (.plain 1)]
    else inRow [fork, body]
  | some max =>
    if min = 0 ∧ max = 1 then inRow [fork, body, known (.plain 1)]
    else if min = max then exactly min body
    else inRow [exactly min body, known (.plain 1), many (max - min) (inRow [fork, body])]

mutual

/-- How the machine for an expression is made. -/
def ofExpression (direction : Direction) : Expression → Blueprint
  | .empty => known (.plain 1)
  | .text cs => known (.plain (Expression.byteLength cs))
  | .chars _ set => ofSet set
  | .look _ => known (.plain 1)
  | .group _ body =>
    let b := ofExpression direction body
    match direction with
    | .forwards => inRow [known (.plain 1), b, known (.plain 1)]
    | .backwards => b
  | .seq parts => inRow (direction.order (ofExpressions direction parts))
  | .alt choices =>
    match ofTexts? direction choices with
    | some b => b
    | none => ofChoices (ofExpressions direction choices)
  | .times body min max _ =>
    ofTimes (ofExpression direction body) ((body.minLength?.getD 0) == 0) min max

/-- How the machines for the expressions of a list are made. -/
def ofExpressions (direction : Direction) : List Expression → List Blueprint
  | [] => []
  | e :: rest => ofExpression direction e :: ofExpressions direction rest

end

/-- The states in front of all others: a single one if every match is tied to the end of the text
where the machine begins, and else those that skip bytes. -/
def lead (anchored : Bool) : Blueprint :=
  if anchored then known (.plain 1)
  else inRow [fork, known (.plain 1), known (.reading 1)]

/-- How the whole machine for an expression is made. -/
def machine (e : Expression) : Direction → Blueprint
  | .forwards =>
    inRow [lead e.startsAnchored, known (.plain 1), ofExpression .forwards e, known (.plain 2)]
  | .backwards => inRow [lead e.stopsAnchored, ofExpression .backwards e, known (.plain 1)]

/-! ### Making a machine -/

/-- Repeats a step a number of times, or as long as the bytes are no more than allowed. -/
def stepWhileFits (step : Usage → Usage) : Nat → Usage → Usage
  | 0, u => u
  | n + 1, u => if u.fits then stepWhileFits step n (step u) else u

mutual

/-- What there is once a part has been made, after what was there before. Once that is more than
allowed, nothing more is made. -/
def build (direction : Direction) : Blueprint → Usage → Usage
  | known usage, before => before.add usage
  | wide sequences, before =>
    match direction with
    | .forwards => WideSet.forwards sequences before
    | .backwards => WideSet.backwards sequences before
  | row parts, before => buildAll direction parts before
  | copies n body, before => stepWhileFits (fun u => build direction body u) n before

/-- What there is once the parts of a list have been made. -/
def buildAll (direction : Direction) : List Blueprint → Usage → Usage
  | [], before => before
  | b :: rest, before =>
    if before.fits then buildAll direction rest (build direction b before) else before

end

end Blueprint

/-- What the machine for an expression takes up; not all of it if that is more than allowed. -/
def usage (e : Expression) (direction : Direction) : Usage :=
  (Blueprint.machine e direction).build direction {}

/-- How many fixed texts there have to be in a choice for it to be searched without a machine. -/
def manyTexts : Nat := 3000

/-- Whether an expression is a choice between so many fixed texts that it needs no machine. -/
def needsNoMachine : Expression → Bool
  | .alt choices => decide (manyTexts ≤ choices.length) && choices.all fun e =>
    match e with
    | .text _ => true
    | _ => false
  | _ => false

/-- Whether an expression takes up no more bytes than allowed. -/
def fits (e : Expression) : Bool :=
  needsNoMachine e || ((usage e .forwards).fits && (usage e .backwards).fits)

end BuildDrift.Pattern.Footprint
