import BuildDrift.Pattern.Footprint.Usage

/-!
# The machine for a choice between texts

For a choice between fixed texts the machine is a tree: texts that begin alike share the states of
their common beginning. The order of the choices counts. Where a text ends, the tree is closed, and
texts that come later share no states with what comes before from that place on.

## Main definitions

* `TextTree.runs`: the texts between those that end.
* `TextTree.usage`: what the tree takes up.
-/

namespace BuildDrift.Pattern.Footprint.TextTree

/-- The texts that go on, in runs between those that end. Texts that end before any goes on count
once. -/
def runs (texts : List (List Nat)) : List (List (List Nat)) :=
  let between := texts.foldr (fun text (run, behind) =>
    if text.isEmpty then ([], run :: behind) else (text :: run, behind))
    (([] : List (List Nat)), ([] : List (List (List Nat))))
  let all := between.1 :: between.2
  match all.takeWhile List.isEmpty, all.dropWhile List.isEmpty with
  | _ :: _ :: _, rest => [] :: (if rest.isEmpty then [[]] else rest)
  | _, _ => all

/-- The bytes that the texts of a run begin with, each once. -/
def heads (run : List (List Nat)) : List Nat :=
  (run.filterMap List.head?).eraseDups

/-- What is left of the texts that begin with a byte. -/
def tails (run : List (List Nat)) (byte : Nat) : List (List Nat) :=
  run.filterMap fun text =>
    match text with
    | b :: rest => if b = byte then some rest else none
    | [] => none

/-- What the state that reads the first byte of a run takes up, if there is one. -/
def runUsage (run : List (List Nat)) : Usage :=
  match (heads run).length with
  | 0 => {}
  | 1 => .plain 1
  | n => .reading n

/-- What the tree of some texts of at most `fuel` bytes takes up, its end left out. -/
def usage : Nat → List (List Nat) → Usage
  | 0, _ => {}
  | fuel + 1, texts =>
    let parts := runs texts
    let ways := (parts.filter fun run => !run.isEmpty).length + (parts.length - 1)
    let below := parts.flatMap fun run => (heads run).map (tails run)
    (Usage.total (parts.map runUsage)).add <|
      (Usage.branching ways).add <|
        .total ((below.filter fun texts => !texts.all List.isEmpty).map (usage fuel))

end BuildDrift.Pattern.Footprint.TextTree
