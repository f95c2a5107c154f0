import BuildDrift.Pattern.ByteSequence
import BuildDrift.Pattern.Footprint.Usage
import Std.Data.TreeMap

/-!
# The machine for a set beyond ASCII

The characters of a set beyond ASCII have several bytes, and the machine for such a set shares
states where it knows that they would be alike. It knows the states that it keeps in a table with a
limited number of places: a new state takes the place that its content is assigned to, and drives
out the one that was there. Which states share a place depends on their numbers, so on how many
states have been made before.

Forwards, the states are made from the last bytes to the first, and states with the same ways on
are one. Backwards, the last bytes are read first, and what is alike up to there is shared.

## Main definitions

* `WideSet.place`: the place of a state in a table.
* `WideSet.forwards`, `WideSet.backwards`: what the set takes up, after what is there already.
-/

namespace BuildDrift.Pattern.Footprint.WideSet

/-- The place for a content in a table of so many places: a product over its numbers. -/
def place (places : Nat) (content : List Nat) : Nat :=
  let hash := content.foldl (fun h n => (h ^^^ UInt64.ofNat n) * 1099511628211)
    14695981039346656037
  hash.toNat % places

/-- What has been made, and the states that can still be found, by their places. -/
structure Workshop where
  /-- What has been made. -/
  usage : Usage
  /-- For each taken place the content and the number of a state. -/
  table : Std.TreeMap Nat (List Nat × Nat) := ∅

namespace Workshop

/-- The number of the state with a content, which is made and kept if it cannot be found. -/
def obtain (w : Workshop) (places : Nat) (content : List Nat) (made : Usage) : Nat × Workshop :=
  let p := place places content
  match (w.table[p]?).filter fun known => known.1 == content with
  | some known => (known.2, w)
  | none =>
    (w.usage.states, ⟨w.usage.add made, w.table.insert p (content, w.usage.states)⟩)

end Workshop

/-! ### Forwards -/

/-- The sequences in groups of neighbours with the same first range, each with what is left. -/
def groups : List ByteSequence → List ((Nat × Nat) × List ByteSequence)
  | [] => []
  | [] :: rest => groups rest
  | (range :: tail) :: rest =>
    match groups rest with
    | (range', tails) :: more =>
      if range = range' then (range, tail :: tails) :: more
      else (range, [tail]) :: (range', tails) :: more
    | [] => [(range, [tail])]

/-- The number of the state that reads the given sequences, at most `fuel` ranges long, and goes on
to the state `target`. -/
def stateFor (target : Nat) : Nat → List ByteSequence → Workshop → Nat × Workshop
  | 0, _, w => (target, w)
  | fuel + 1, sequences, w =>
    let ways := groups sequences
    let (content, w) := ways.foldl (fun (content, w) ((first, last), tails) =>
      let (next, w) := if tails.all List.isEmpty then (target, w) else stateFor target fuel tails w
      (content ++ [first, last, next], w)) (([] : List Nat), w)
    w.obtain 10000 content (.reading ways.length)

/-- What a set takes up forwards, after what is there already. -/
def forwards (sequences : List ByteSequence) (before : Usage) : Usage :=
  (stateFor before.states 4 sequences ⟨before.add (.plain 1), ∅⟩).2.usage

/-! ### Backwards -/

/-- What a set takes up backwards, after what is there already. -/
def backwards (sequences : List ByteSequence) (before : Usage) : Usage :=
  let stop := before.states + 1
  let start : Workshop := ⟨(before.add (.branching sequences.length)).add (.plain 1), ∅⟩
  (sequences.foldl (fun w sequence => (sequence.foldl (fun (next, w) (first, last) =>
    w.obtain 1000 [next, first, last] (.plain 1)) (stop, w)).2) start).usage

end BuildDrift.Pattern.Footprint.WideSet
