import BuildDrift.Instrumentation.Treatment

/-!
# What has been injected

## Main definitions

* `Tally`: how many records have been injected into a body, and the sites that are not recorded.
* `Tally.ofBody`: the tally of the treatments of a body.
-/

namespace BuildDrift

/-- A site that is not recorded. -/
structure UnrecordedSite where
  /-- The offset of the site in the given body. -/
  offset : Offset
  /-- What is missing. -/
  obstacle : Obstacle
  deriving DecidableEq, Repr

/-- What has been injected into a body. -/
structure Tally where
  /-- How many constructions are recorded. -/
  constructions : Nat := 0
  /-- How many calls are recorded without their results. -/
  plainCalls : Nat := 0
  /-- How many calls are recorded with their results. -/
  resultCalls : Nat := 0
  /-- How many returns are preceded by the end of the test. -/
  endings : Nat := 0
  /-- How many local variables have been added. -/
  addedLocals : Nat := 0
  /-- The sites that are not recorded. -/
  unrecorded : List UnrecordedSite := []
  deriving DecidableEq, Repr, Inhabited

namespace Tally

/-- How many calls have been injected, the start of the test included. -/
def injectedCalls (t : Tally) : Nat :=
  1 + t.constructions + t.plainCalls + t.resultCalls + t.endings

/-- What two parts of a body inject together. -/
def add (t u : Tally) : Tally where
  constructions := t.constructions + u.constructions
  plainCalls := t.plainCalls + u.plainCalls
  resultCalls := t.resultCalls + u.resultCalls
  endings := t.endings + u.endings
  addedLocals := t.addedLocals + u.addedLocals
  unrecorded := t.unrecorded ++ u.unrecorded

/-- What a single treatment injects. -/
def ofTreated : Operation × Treatment → Tally
  | (_, .construction _) => { constructions := 1 }
  | (o, .plainCall ..) => { plainCalls := 1, endings := o.isReturn.toNat }
  | (_, .resultCall ..) => { resultCalls := 1, addedLocals := 1 }
  | (o, .keep) => { endings := o.isReturn.toNat }
  | (o, .unrecorded obstacle) =>
    { endings := o.isReturn.toNat, unrecorded := [⟨o.offset, obstacle⟩] }

/-- What the treatments of a body inject. -/
def ofBody (treated : List (Operation × Treatment)) : Tally :=
  treated.foldr (fun entry rest => (ofTreated entry).add rest) {}

end Tally

end BuildDrift
