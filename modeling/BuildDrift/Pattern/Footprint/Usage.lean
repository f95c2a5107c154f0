/-!
# What a machine takes up

A pattern is turned into a machine that reads a text byte by byte. Every state of the machine takes
up the same number of bytes. A state with several ways on takes up some more bytes: so many for each
way if it reads a byte, and fewer if it only branches.

## Main definitions

* `Footprint.Direction`: a machine reads texts forwards or backwards.
* `Footprint.Usage`: states and further bytes, with `Usage.bytes`.
* `Footprint.limit`: how many bytes a machine may take up.
-/

namespace BuildDrift.Pattern.Footprint

/-- The direction in which a machine reads texts. -/
inductive Direction where
  /-- From the start to the end. -/
  | forwards
  /-- From the end to the start. -/
  | backwards
  deriving DecidableEq, Repr

/-- A list in the order in which it is met. -/
def Direction.order {α : Type} (list : List α) : Direction → List α
  | forwards => list
  | backwards => list.reverse

/-- The bytes that one state takes up. -/
def stateSize : Nat := 32

/-- The bytes that a way on from a branching state takes up. -/
def branchSize : Nat := 4

/-- The bytes that a way on from a state with several byte ranges takes up. -/
def transitionSize : Nat := 8

/-- How many bytes a machine may take up. -/
def limit : Nat := 10 * Nat.pow 2 20

/-- States, and the bytes that their ways on take up. -/
structure Usage where
  /-- The number of states. -/
  states : Nat := 0
  /-- The bytes beside the states. -/
  extra : Nat := 0
  deriving DecidableEq, Repr, Inhabited

namespace Usage

/-- All the bytes. -/
def bytes (u : Usage) : Nat :=
  stateSize * u.states + u.extra

/-- Whether the bytes are no more than allowed. -/
def fits (u : Usage) : Bool :=
  u.bytes ≤ limit

/-- Two usages together. -/
def add (u v : Usage) : Usage :=
  ⟨u.states + v.states, u.extra + v.extra⟩

/-- The usages of a list together. -/
def total (us : List Usage) : Usage :=
  us.foldl add {}

/-- A usage a number of times. -/
def scale (n : Nat) (u : Usage) : Usage :=
  ⟨n * u.states, n * u.extra⟩

/-- States with one way on each. -/
def plain (states : Nat) : Usage := ⟨states, 0⟩

/-- A state that branches. -/
def branching (ways : Nat) : Usage := ⟨1, branchSize * ways⟩

/-- A state that reads a byte of one of several ranges. -/
def reading (ranges : Nat) : Usage := ⟨1, transitionSize * ranges⟩

end Usage

end BuildDrift.Pattern.Footprint
