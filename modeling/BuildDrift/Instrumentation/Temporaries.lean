import BuildDrift.Model.Method

/-!
# Temporaries

An instrumented body keeps results in local variables of its own. Their names are a common prefix
and a number, counted on from the last one; numbers whose names are taken are passed over. There
are no more slots than sixteen bits can count.

## Main definitions

* `Temporaries`: the locals of a method, those added so far included.
* `Temporaries.freeNumber`: the first number whose name is not taken.
* `Temporaries.add?`: one more local variable, if there is a slot for it.
-/

namespace BuildDrift

/-- The local variables of a method that is being instrumented. -/
structure Temporaries where
  /-- How the names of added variables begin. -/
  stem : String
  /-- The variables, added ones at the end. -/
  locals : List LocalVariable
  /-- The number at which the search for the next name begins. -/
  next : Nat := 0
  deriving DecidableEq, Repr

namespace Temporaries

/-- How many slots there are. -/
def slotLimit : Nat := 65536

/-- The name of a number. -/
def nameOf (stem : String) (number : Nat) : String :=
  stem ++ "_" ++ toString number

/-- The first number, from `number` on, whose name is not taken. A name that has been passed over
is dropped from the taken ones, since no later number has it. -/
def freeNumber (stem : String) (number : Nat) (taken : List String) : Nat :=
  if nameOf stem number ∈ taken then
    freeNumber stem (number + 1) (taken.erase (nameOf stem number))
  else number
termination_by taken.length
decreasing_by
  rename_i h
  have := List.length_pos_of_mem h
  simp only [List.length_erase_of_mem h]
  omega

/-- The slot of one more variable of a type, if there is one, and the variables with it. -/
def add? (t : Temporaries) (type : TypeRef) : Option (UInt16 × Temporaries) :=
  if t.locals.length < slotLimit then
    let number := freeNumber t.stem t.next (t.locals.map LocalVariable.name)
    let slot := UInt16.ofNat t.locals.length
    some (slot,
      { t with
        locals := t.locals ++ [⟨slot, nameOf t.stem number, type⟩]
        next := number + 1 })
  else none

end Temporaries

end BuildDrift
