import BuildDrift.Proofs.Instrumentation.Outcome

/-!
# How much an instrumented body grows

Every operation of a given body leads to a bounded number of injected bytes. So a body that is not
very long is laid out without running out of offsets.

## Main results

* `MethodDefinition.sum_size_instrumented_le`: a bound for the size of an instrumented body.
-/

namespace BuildDrift

/-! ### Sizes of injected instructions -/

namespace Instruction

theorem size_loadLocal_le (slot : UInt16) : (loadLocal slot).size ≤ 4 := by
  simp only [size, loadLocal, Operation.sizeOf, Operation.localSize]
  split_ifs <;> omega

theorem size_storeLocal_le (slot : UInt16) : (storeLocal slot).size ≤ 4 :=
  size_loadLocal_le slot

theorem size_call (m : MethodRef) : (call m).size = 5 := rfl

theorem size_loadString (s : String) : (loadString s).size = 5 := rfl

end Instruction

open Instruction

namespace Treatment

variable (c : InstrumentConfig)

theorem weight_callRecord_le (subject : UInt16) (callee : String) :
    weight (callRecord c subject callee) ≤ 14 := by
  have h := size_loadLocal_le subject
  simp only [callRecord, weight_cons, size_loadString, size_call, weight_nil]
  omega

theorem weight_resultRecord_le (subject temporary : UInt16) (callee : MethodRef)
    (result : TypeRef) : weight (resultRecord c subject temporary callee result) ≤ 23 := by
  have h₁ := size_loadLocal_le subject
  have h₂ := size_loadLocal_le temporary
  have hbox : size (.box, .type result) = 5 := rfl
  simp only [resultRecord, weight_append, weight_cons, size_loadString, size_call, weight_nil]
  split_ifs <;> simp only [weight_cons, weight_nil, hbox] <;> omega

theorem weight_lead_le (t : Treatment) : weight (t.lead c) ≤ 14 := by
  cases t with
  | plainCall subject callee => exact weight_callRecord_le c subject callee.name
  | _ => exact Nat.zero_le 14

theorem weight_head_le (o : Operation) (t : Treatment) : weight (t.head c o) ≤ 5 := by
  have h (b : Bool) : weight (if b then [call c.api.endTest] else []) ≤ 5 := by
    cases b
    · exact Nat.zero_le 5
    · exact Nat.le_refl 5
  cases t with
  | construction | resultCall => exact Nat.zero_le 5
  | _ => exact h o.isReturn

theorem weight_trail_le (t : Treatment) : weight (t.trail c) ≤ 23 := by
  cases t with
  | construction subject => exact Nat.le_trans (weight_callRecord_le c subject _) (by omega)
  | resultCall => exact weight_resultRecord_le c ..
  | _ => exact Nat.zero_le 23

theorem size_emitted_le (r : Relocation) (o : Operation) (t : Treatment) :
    (t.emitted r o).size ≤ o.size + 4 := by
  cases t with
  | resultCall subject temporary => exact Nat.le_add_left_of_le (size_storeLocal_le temporary)
  | _ => exact Nat.le_trans (Nat.le_of_eq (r.size_emitted o)) (Nat.le_add_right _ 4)

end Treatment

/-! ### The instrumented body -/

namespace MethodDefinition

theorem weight_tilesOf_le (c : InstrumentConfig) (r : Relocation)
    (treated : List (Operation × Treatment)) :
    Emitted.weight ((tilesOf c r treated).flatMap Tile.emitted) ≤
      (treated.map fun entry => entry.1.size + 46).sum := by
  have hplain (l : List Instruction) : Emitted.weight (l.map Emitted.plain) = weight l := by
    rw [← Emitted.weight_map_settled (fun _ => 0), Emitted.map_settled_plain]
  have hlead (treated : List (Operation × Treatment)) : weight (leadOf c treated) ≤ 14 := by
    cases treated with
    | nil => exact Nat.zero_le 14
    | cons entry treated => exact entry.2.weight_lead_le c
  induction treated with
  | nil => exact Nat.le_refl 0
  | cons entry treated ih =>
    obtain ⟨o, t⟩ := entry
    have h₁ := t.weight_head_le c o
    have h₂ := t.size_emitted_le r o
    have h₃ := t.weight_trail_le c
    have h₄ := hlead treated
    simp only [tilesOf, List.flatMap_cons, Emitted.weight_append, Emitted.weight_cons, hplain,
      weight_append, List.map_cons, List.sum_cons]
    omega

/-- A body that is short enough is laid out exactly: instrumenting adds at most ten bytes and
46 bytes for every operation. -/
theorem sum_size_instrumented_le (m : MethodDefinition) (c : InstrumentConfig)
    (region : ExceptionRegion) :
    ((m.instrumented c region).operations.map Operation.size).sum ≤
      10 + (m.operations.map fun o => o.size + 46).sum := by
  have hopening : Emitted.weight (m.opening c) = 10 := rfl
  have htiles := weight_tilesOf_le c m.relocation (m.treatments c region).1
  have hfst : ((m.treatments c region).1.map fun entry => entry.1.size + 46) =
      m.operations.map fun o => o.size + 46 := by
    rw [← m.map_fst_treatments c region, List.map_map]
    rfl
  rw [hfst] at htiles
  rw [sum_size_instrumented, code, Emitted.weight_map_settled, Tile.code, Emitted.weight_append,
    hopening]
  exact Nat.add_le_add_left htiles 10

/-- The example is laid out exactly. -/
theorem exact_sample :
    (((sample 6).instrumented {} (sampleRegion 6)).operations.map Operation.size).sum <
      UInt32.size :=
  Nat.lt_of_le_of_lt (sum_size_instrumented_le _ _ _) (by decide)

end MethodDefinition

end BuildDrift
