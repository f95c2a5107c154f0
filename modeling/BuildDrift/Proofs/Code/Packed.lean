import BuildDrift.Model.Method
import BuildDrift.Proofs.Code.Assembly
import BuildDrift.Proofs.Code.Ordered

/-!
# Packed bodies

A body without gaps is determined by its instructions, the kinds and operands of its operations in
order: every operation stands at the sum of the sizes before it, or at the greatest offset if the
sum is out of range.

## Main definitions

* `Operand.retarget`: an operand with its target moved.
* `Instruction`, `Body.instructions`: operations without their offsets.
* `Body.packed`: instructions packed one behind the other.

## Main results

* `Body.getElem?_packed`: the operation at a position of a packed body.
* `Body.ordered_packed`: a packed body that ends in range is ordered.
* `MethodDefinition.codeSizeOf_packed`: where a packed body ends.
-/

namespace BuildDrift

/-- The operand with its target moved. -/
def Operand.retarget (f : Offset → Offset) : Operand → Operand
  | target t => target (f t)
  | a => a

/-- What an operation does and on what it acts, wherever it stands. -/
abbrev Instruction := OpKind × Operand

namespace Instruction

/-- The bytes that an instruction takes up. -/
def size (i : Instruction) : ℕ :=
  Operation.sizeOf i.1 i.2

/-- A call of a method. -/
def call (m : MethodRef) : Instruction := (.call, .method m)

/-- A load of a local variable. -/
def loadLocal (slot : UInt16) : Instruction := (.loadLocal, .slot slot)

/-- A store into a local variable. -/
def storeLocal (slot : UInt16) : Instruction := (.storeLocal, .slot slot)

/-- A load of a string. -/
def loadString (s : String) : Instruction := (.loadString, .text s)

/-- The bytes that instructions take up together. -/
def weight (code : List Instruction) : ℕ :=
  (code.map size).sum

@[simp] theorem weight_nil : weight [] = 0 := rfl

@[simp] theorem weight_cons (i : Instruction) (code : List Instruction) :
    weight (i :: code) = i.size + weight code := by
  simp [weight]

@[simp] theorem weight_append (l₁ l₂ : List Instruction) :
    weight (l₁ ++ l₂) = weight l₁ + weight l₂ := by
  simp [weight]

theorem size_pos (i : Instruction) : 0 < i.size :=
  Operation.sizeOf_pos i.1 i.2

theorem weight_take_succ {code : List Instruction} {k : ℕ} {i : Instruction}
    (hk : code[k]? = some i) : weight (code.take (k + 1)) = weight (code.take k) + i.size := by
  rw [List.take_add_one, hk, Option.toList_some, weight_append, weight_cons, weight_nil,
    Nat.add_zero]

theorem weight_take_add_size_le {code : List Instruction} {p : ℕ} {i : Instruction}
    (hp : code[p]? = some i) : weight (code.take p) + i.size ≤ weight code := by
  obtain ⟨hlt, rfl⟩ := List.getElem?_eq_some_iff.1 hp
  have h : weight code = weight (code.take p) + weight (code.drop p) := by
    rw [← weight_append, List.take_append_drop]
  rw [h, List.drop_eq_getElem_cons hlt, weight_cons]
  omega

/-- More instructions take up more bytes. -/
theorem weight_take_lt {code : List Instruction} {p q : ℕ} (h : p < q) (hq : q ≤ code.length) :
    weight (code.take p) < weight (code.take q) := by
  have hp : p < (code.take q).length := by rw [List.length_take]; omega
  have hle := weight_take_add_size_le (List.getElem?_eq_getElem hp)
  rw [List.take_take, Nat.min_eq_left (Nat.le_of_lt h)] at hle
  have hpos := size_pos (code.take q)[p]
  omega

end Instruction

/-- The operation without its offset. -/
def Operation.instruction (o : Operation) : Instruction :=
  (o.kind, o.operand)

namespace Body

open Instruction

/-- The operations without their offsets. -/
def instructions (body : Body) : List Instruction :=
  body.map Operation.instruction

/-- Instructions packed one behind the other, the first one at a place. -/
def packed : ℕ → List Instruction → Body
  | _, [] => []
  | place, i :: code => ⟨.capped place, i.1, i.2⟩ :: packed (place + i.size) code

@[simp] theorem length_packed (place : ℕ) (code : List Instruction) :
    (packed place code).length = code.length := by
  induction code generalizing place with
  | nil => rfl
  | cons i code ih => rw [packed, List.length_cons, List.length_cons, ih]

@[simp] theorem instructions_packed (place : ℕ) (code : List Instruction) :
    (packed place code).instructions = code := by
  induction code generalizing place with
  | nil => rfl
  | cons i code ih => exact congrArg (i :: ·) (ih (place + i.size))

theorem packed_append (place : ℕ) (l₁ l₂ : List Instruction) :
    packed place (l₁ ++ l₂) = packed place l₁ ++ packed (place + weight l₁) l₂ := by
  induction l₁ generalizing place with
  | nil => rfl
  | cons i l₁ ih => simp [packed, ih, Nat.add_assoc]

/-- The operation at a position of a packed body. -/
theorem getElem?_packed (place : ℕ) (code : List Instruction) (p : ℕ) :
    (packed place code)[p]? =
      code[p]?.map fun i => ⟨.capped (place + weight (code.take p)), i.1, i.2⟩ := by
  induction code generalizing place p with
  | nil => simp [packed]
  | cons i code ih =>
    cases p with
    | zero => simp [packed]
    | succ p => simp [packed, ih, Nat.add_assoc]

theorem exists_of_getElem?_packed {place : ℕ} {code : List Instruction} {p : ℕ} {o : Operation}
    (h : (packed place code)[p]? = some o) : ∃ i, code[p]? = some i ∧
      o = ⟨.capped (place + weight (code.take p)), i.1, i.2⟩ := by
  rw [getElem?_packed, Option.map_eq_some_iff] at h
  obtain ⟨i, hi, rfl⟩ := h
  exact ⟨i, hi, rfl⟩

/-- A packed body that ends in range is ordered. -/
theorem ordered_packed {place : ℕ} {code : List Instruction}
    (h : place + weight code < UInt32.size) : (packed place code).Ordered := by
  induction code generalizing place with
  | nil => exact List.Pairwise.nil
  | cons i code ih =>
    rw [weight_cons] at h
    refine List.pairwise_cons.2 ⟨fun o ho => ?_, ih (by omega)⟩
    obtain ⟨p, hp⟩ := List.mem_iff_getElem?.1 ho
    obtain ⟨j, hj, rfl⟩ := exists_of_getElem?_packed hp
    have hi := size_pos i
    have hle := weight_take_add_size_le hj
    exact Offset.capped_lt_capped (by omega) (by omega)

end Body

/-- The offset behind a packed body. -/
theorem MethodDefinition.codeSizeOf_packed (code : List Instruction) :
    codeSizeOf (Body.packed 0 code) = .capped (Instruction.weight code) := by
  rcases List.eq_nil_or_concat code with rfl | ⟨front, i, rfl⟩
  · rfl
  · have hlast : (Body.packed 0 (front ++ [i])).getLast? =
        some ⟨.capped (Instruction.weight front), i.1, i.2⟩ := by
      rw [List.getLast?_eq_getElem?, Body.length_packed, Body.getElem?_packed]
      simp
    have hend (o : Operation) : o.endOffset?.getD Offset.greatest = o.offset.advance o.size := rfl
    rw [codeSizeOf, List.concat_eq_append, hlast]
    simp only [hend]
    rw [Operation.size, Offset.capped_advance, Instruction.weight_append, Instruction.weight_cons]
    rfl

end BuildDrift
