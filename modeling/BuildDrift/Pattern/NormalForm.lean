import BuildDrift.Pattern.Expression

/-!
# Normal forms of expressions

Expressions are kept in a form in which the same rule is not written in two ways without need. Empty
parts of a row are dropped and neighbouring texts joined; a choice between characters or between
sets is one set; what all the rows of a choice begin with is written once, in front of the choice.
Each function here builds an expression in that form from parts that have it already.

## Main definitions

* `Expression.ofSet`, `ofChar`: one character.
* `Expression.row`: one after the other.
* `Expression.choice`: one of several.
* `Expression.repetition`: a number of times.
-/

namespace BuildDrift.Pattern.Expression

/-! ### Single characters -/

/-- One character of a set; fixed text if there is only one. -/
def ofSet (units : Units) (set : CodePointSet) : Expression :=
  match set.ranges with
  | [] => nothing
  | [(a, b)] => if a = b then text [Char.ofNat a] else chars units set
  | _ => chars units set

/-- One given character. -/
def ofChar (c : Char) : Expression := text [c]

/-! ### Rows -/

/-- The parts that an expression adds to a row. -/
def partsOf : Expression → List Expression
  | empty => []
  | seq parts => parts
  | e => [e]

/-- Joins neighbouring texts. -/
def joinTexts : List Expression → List Expression
  | [] => []
  | text cs :: rest =>
    match joinTexts rest with
    | text ds :: more => text (cs ++ ds) :: more
    | more => text cs :: more
  | e :: rest => e :: joinTexts rest

/-- One after the other. -/
def row (parts : List Expression) : Expression :=
  match joinTexts (parts.flatMap partsOf) with
  | [] => empty
  | [e] => e
  | es => seq es

/-! ### Choices -/

/-- The choices that an expression adds to others. -/
def choicesOf : Expression → List Expression
  | alt choices => choices
  | e => [e]

/-- The set that an expression stands for if it is a text of one character. -/
def charSet? : Expression → Option CodePointSet
  | text [c] => some (.single c)
  | _ => none

/-- The set that an expression stands for if it is written as a set. -/
def writtenSet? : Expression → Option CodePointSet
  | chars _ set => some set
  | _ => none

/-- The set that a choice stands for, if it is one between characters or one between sets. -/
def unionSet? (choices : List Expression) : Option CodePointSet :=
  ((choices.mapM charSet?).orElse fun _ => choices.mapM writtenSet?).map CodePointSet.unions

/-- The parts of an expression that is a row. -/
def rowParts? : Expression → Option (List Expression)
  | seq parts => some parts
  | _ => none

/-- What two rows have in common at their beginnings. -/
def commonParts : List Expression → List Expression → List Expression
  | a :: as, b :: bs => if same a b then a :: commonParts as bs else []
  | _, _ => []

/-- One of several expressions that nest at most `fuel` deep. -/
def choiceWithin (fuel : Nat) (choices : List Expression) : Expression :=
  match choices.flatMap choicesOf with
  | [] => nothing
  | [e] => e
  | e :: es =>
    match unionSet? (e :: es) with
    | some set => ofSet .characters set
    | none =>
      match fuel, (e :: es).mapM rowParts? with
      | fuel + 1, some (first :: others) =>
        match others.foldl commonParts first with
        | [] => alt (e :: es)
        | common =>
          row (common ++ [choiceWithin fuel
            ((first :: others).map fun parts => row (parts.drop common.length))])
      | _, _ => alt (e :: es)

/-- One of several. -/
def choice (choices : List Expression) : Expression :=
  choiceWithin (heightAll choices + 1) choices

/-! ### Repetitions -/

/-- At least `min` times and at most `max` times. What matches the empty text at most need not be
repeated more than once. -/
def repetition (body : Expression) (min : Nat) (max : Option Nat) (lazy : Bool) : Expression :=
  let (min, max) := if isBlank body then (Nat.min min 1, some (Nat.min (max.getD 1) 1))
    else (min, max)
  if max = some 0 then empty
  else if min = 1 ∧ max = some 1 then body
  else times body min max lazy

end BuildDrift.Pattern.Expression
