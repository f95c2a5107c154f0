import BuildDrift.Code.Builder
import Mathlib.Algebra.GroupWithZero.Nat
import Mathlib.Data.List.Basic

/-!
# What building a body amounts to

A body is built by a sequence of steps. The builder adds sizes to a position that stays at the
greatest offset once it is reached, and gives branches their targets after everything is laid out.
Here the outcome is written down directly: every operation stands at the exact sum of the sizes
before it, capped once, and a branch to a label goes to the sum at which the label is marked.

## Main definitions

* `Offset.capped`: a number of bytes as an offset, the greatest one if it is too large.
* `BodyBuilder.Step`, `BodyBuilder.run`: the steps of building a body.
* `BodyBuilder.lay`, `BodyBuilder.marks`: the operations of a sequence of steps and the labels
  with their exact places.

## Main results

* `BodyBuilder.run_eq_ok`: what has been built after a sequence of steps.
* `BodyBuilder.build_extended`: the body, when every label that is gone to is marked.
-/

namespace BuildDrift

namespace Offset

/-- A number of bytes as an offset, or the greatest offset if there are too many. -/
def capped (bytes : ℕ) : Offset :=
  advance 0 bytes

theorem toNat_advance (o : Offset) (bytes : ℕ) :
    (o.advance bytes).toNat = min (o.toNat + bytes) (UInt32.size - 1) := by
  have ho : o.toNat < UInt32.size := o.toNat_lt
  rw [advance, advance?]
  split_ifs with h
  · have hsum : (UInt32.ofNat (o.toNat + bytes)).toNat = o.toNat + bytes :=
      UInt32.toNat_ofNat_of_lt' h
    rw [Option.getD_some, hsum]
    omega
  · have hgreatest : greatest.toNat = UInt32.size - 1 := rfl
    rw [Option.getD_none, hgreatest]
    omega

theorem toNat_capped (bytes : ℕ) : (capped bytes).toNat = min bytes (UInt32.size - 1) := by
  rw [capped, toNat_advance, UInt32.toNat_zero, Nat.zero_add]

/-- Caps one behind the other amount to a single cap. -/
@[simp] theorem capped_advance (m n : ℕ) : (capped m).advance n = capped (m + n) := by
  rw [← UInt32.toNat_inj, toNat_advance, toNat_capped, toNat_capped]
  omega

theorem toNat_capped_of_lt {n : ℕ} (h : n < UInt32.size) : (capped n).toNat = n := by
  rw [toNat_capped]
  omega

theorem capped_lt_capped {m n : ℕ} (h : m < n) (hn : n < UInt32.size) : capped m < capped n := by
  rw [UInt32.lt_iff_toNat_lt, toNat_capped_of_lt hn, toNat_capped_of_lt (Nat.lt_trans h hn)]
  exact h

end Offset

namespace Operation

/-- Every operation takes up at least one byte. -/
theorem sizeOf_pos (kind : OpKind) (operand : Operand) : 0 < sizeOf kind operand := by
  cases kind <;> simp only [sizeOf, localSize] <;> (try split) <;> (try split_ifs) <;> omega

/-- The size of an operation does not depend on where it goes. -/
theorem sizeOf_target (kind : OpKind) (s t : Offset) :
    sizeOf kind (.target s) = sizeOf kind (.target t) := by
  cases kind <;> rfl

/-- An operation stands in front of its end. -/
theorem offset_lt_endOffset? {o : Operation} {e : Offset} (h : o.endOffset? = some e) :
    o.offset < e := by
  simp only [endOffset?, Offset.advance?, Option.ite_none_right_eq_some, Option.some.injEq] at h
  obtain ⟨hrange, rfl⟩ := h
  have hpos : 0 < o.size := sizeOf_pos _ _
  rw [UInt32.lt_iff_toNat_lt, UInt32.toNat_ofNat_of_lt' hrange]
  omega

end Operation

namespace BodyBuilder

/-- A step of building a body. -/
inductive Step (Label : Type) where
  /-- Append an operation. -/
  | append (kind : OpKind) (operand : Operand)
  /-- Append an operation that goes to a label. -/
  | appendTo (kind : OpKind) (label : Label)
  /-- Leave bytes free. -/
  | skip (bytes : UInt32)
  /-- Mark the position with a label. -/
  | mark (label : Label)

variable {Label : Type}

namespace Step

/-- The bytes that a step takes up. -/
def size : Step Label → ℕ
  | append kind operand => Operation.sizeOf kind operand
  | appendTo kind _ => Operation.sizeOf kind (.target 0)
  | skip bytes => bytes.toNat
  | mark _ => 0

/-- The label that a step marks. -/
def marked? : Step Label → Option Label
  | mark label => some label
  | _ => none

/-- The label that a step goes to. -/
def goal? : Step Label → Option Label
  | appendTo _ label => some label
  | _ => none

end Step

/-- The bytes that a sequence of steps takes up. -/
def extent (steps : List (Step Label)) : ℕ :=
  (steps.map Step.size).sum

@[simp] theorem extent_nil : extent ([] : List (Step Label)) = 0 := rfl

@[simp] theorem extent_cons (s : Step Label) (steps : List (Step Label)) :
    extent (s :: steps) = s.size + extent steps := by
  simp [extent]

@[simp] theorem extent_append (l₁ l₂ : List (Step Label)) :
    extent (l₁ ++ l₂) = extent l₁ + extent l₂ := by
  simp [extent]

/-- The operations of a sequence of steps that begins at a place, with targets for labels. -/
def lay (target : Label → Offset) : ℕ → List (Step Label) → Body
  | _, [] => []
  | place, .append kind operand :: steps =>
    ⟨.capped place, kind, operand⟩ :: lay target (place + Operation.sizeOf kind operand) steps
  | place, .appendTo kind label :: steps =>
    ⟨.capped place, kind, .target (target label)⟩ ::
      lay target (place + Operation.sizeOf kind (.target 0)) steps
  | place, .skip bytes :: steps => lay target (place + bytes.toNat) steps
  | place, .mark _ :: steps => lay target place steps

/-- The labels that a sequence of steps marks, each with its exact place. -/
def marks : ℕ → List (Step Label) → List (Label × ℕ)
  | _, [] => []
  | place, .mark label :: steps => (label, place) :: marks place steps
  | place, s :: steps => marks (place + s.size) steps

/-- The operations that go to labels, each by its position, which is counted from `i`. -/
def goals : ℕ → List (Step Label) → List (ℕ × Label)
  | _, [] => []
  | i, .append .. :: steps => goals (i + 1) steps
  | i, .appendTo _ label :: steps => (i, label) :: goals (i + 1) steps
  | i, _ :: steps => goals i steps

theorem map_fst_marks (place : ℕ) (steps : List (Step Label)) :
    (marks place steps).map Prod.fst = steps.filterMap Step.marked? := by
  induction steps generalizing place with
  | nil => rfl
  | cons s steps ih => cases s <;> simp [marks, Step.marked?, List.filterMap_cons, ih]

theorem marks_append (place : ℕ) (l₁ l₂ : List (Step Label)) :
    marks place (l₁ ++ l₂) = marks place l₁ ++ marks (place + extent l₁) l₂ := by
  induction l₁ generalizing place with
  | nil => simp [marks]
  | cons s l₁ ih => cases s <;> simp [marks, Step.size, ih, Nat.add_assoc]

theorem lay_append (target : Label → Offset) (place : ℕ) (l₁ l₂ : List (Step Label)) :
    lay target place (l₁ ++ l₂) = lay target place l₁ ++ lay target (place + extent l₁) l₂ := by
  induction l₁ generalizing place with
  | nil => simp [lay]
  | cons s l₁ ih => cases s <;> simp [lay, Step.size, ih, Nat.add_assoc]

/-! ### Running the steps -/

section Run

variable [DecidableEq Label]

/-- One more step. -/
def step (b : BodyBuilder Label) : Step Label → Except (LabelFault Label) (BodyBuilder Label)
  | .append kind operand => .ok (b.append kind operand)
  | .appendTo kind label => .ok (b.appendTo kind label)
  | .skip bytes => .ok (b.skip bytes)
  | .mark label => b.mark label

/-- The steps one after the other. -/
def run (b : BodyBuilder Label) (steps : List (Step Label)) :
    Except (LabelFault Label) (BodyBuilder Label) :=
  steps.foldlM step b

theorem run_append (b : BodyBuilder Label) (l₁ l₂ : List (Step Label)) :
    b.run (l₁ ++ l₂) = (b.run l₁).bind fun b₁ => b₁.run l₂ :=
  List.foldlM_append

/-- What has been built behind `b` when the steps begin at a place and all their labels are
new. -/
def extended (b : BodyBuilder Label) (place : ℕ) (steps : List (Step Label)) :
    BodyBuilder Label where
  appended := b.appended ++ (lay (fun _ => 0) place steps).toArray
  position := .capped (place + extent steps)
  labels := ((marks place steps).map (Prod.map id Offset.capped)).reverse ++ b.labels
  pending := (goals b.appended.size steps).reverse ++ b.pending

/-- A step moves the position by its size. -/
theorem position_of_step {b b₁ : BodyBuilder Label} {place : ℕ} (hb : b.position = .capped place)
    {s : Step Label} (h : b.step s = .ok b₁) : b₁.position = .capped (place + s.size) := by
  cases s with
  | append kind operand =>
    cases h
    rw [append, hb, Offset.capped_advance, Step.size]
  | appendTo kind label =>
    cases h
    rw [appendTo, append, hb, Offset.capped_advance, Step.size]
  | skip bytes =>
    cases h
    rw [skip, hb, Offset.capped_advance, Step.size]
  | mark label =>
    rw [step, mark] at h
    split_ifs at h
    cases h
    exact hb

/-- A label can be marked once. -/
theorem mark_of_mem {b : BodyBuilder Label} {label : Label} (h : label ∈ b.labels.map Prod.fst) :
    b.mark label = .error (.duplicate label) := by
  have htaken : b.position? label ≠ none := by
    rw [position?, ne_eq, List.lookup_eq_none_iff]
    intro hfree
    obtain ⟨entry, hentry, rfl⟩ := List.mem_map.1 h
    simpa using hfree entry hentry
  rw [mark, if_pos (Option.isSome_iff_ne_none.2 htaken)]

theorem mark_of_notMem {b : BodyBuilder Label} {label : Label}
    (h : label ∉ b.labels.map Prod.fst) :
    b.mark label = .ok { b with labels := (label, b.position) :: b.labels } := by
  have hfree : b.position? label = none := by
    rw [position?, List.lookup_eq_none_iff]
    intro entry hentry
    rw [bne_iff_ne]
    rintro rfl
    exact h (List.mem_map_of_mem hentry)
  rw [mark, hfree]
  rfl

/-- Steps that mark new labels succeed, and append what is written down for them. -/
theorem run_eq_ok {b : BodyBuilder Label} {place : ℕ} (hb : b.position = .capped place)
    {steps : List (Step Label)}
    (hnew : (steps.filterMap Step.marked? ++ b.labels.map Prod.fst).Nodup) :
    b.run steps = .ok (b.extended place steps) := by
  induction steps generalizing b place with
  | nil =>
    cases b
    simp_all [run, extended, lay, marks, goals, pure, Except.pure]
  | cons s steps ih =>
    rw [run, List.foldlM_cons]
    cases s with
    | append kind operand =>
      refine (ih (position_of_step hb (s := .append kind operand) rfl) hnew).trans ?_
      simp [extended, append, lay, marks, goals, Step.size, hb, Nat.add_assoc]
    | appendTo kind label =>
      refine (ih (position_of_step hb (s := .appendTo kind label) rfl) hnew).trans ?_
      simp [extended, appendTo, append, lay, marks, goals, Step.size, hb, Nat.add_assoc]
    | skip bytes =>
      refine (ih (position_of_step hb (s := .skip bytes) rfl) hnew).trans ?_
      simp [extended, skip, lay, marks, goals, Step.size, Nat.add_assoc]
    | mark label =>
      have hlabels : (label :: (steps.filterMap Step.marked? ++ b.labels.map Prod.fst)).Nodup :=
        hnew
      have hfree : label ∉ b.labels.map Prod.fst := fun h =>
        (List.nodup_cons.1 hlabels).1 (List.mem_append_right _ h)
      rw [step, mark_of_notMem hfree]
      refine (ih (b := { b with labels := (label, b.position) :: b.labels }) hb ?_).trans ?_
      · exact List.perm_middle.nodup_iff.2 hlabels
      · simp [extended, lay, marks, goals, Step.size, hb]

/-! ### Going to labels -/

private theorem lookup_of_mem {entries : List (Label × Offset)} {label : Label} {place : Offset}
    (hn : (entries.map Prod.fst).Nodup) (h : (label, place) ∈ entries) :
    entries.lookup label = some place := by
  obtain ⟨l₁, l₂, rfl⟩ := List.append_of_mem h
  refine List.lookup_eq_some_iff.2 ⟨l₁, l₂, rfl, fun entry hentry => ?_⟩
  rw [bne_iff_ne]
  rintro rfl
  rw [List.map_append, List.map_cons, List.nodup_append] at hn
  exact hn.2.2 _ (List.mem_map_of_mem hentry) _ List.mem_cons_self rfl

/-- After steps that mark each label once, a label is found where it has been marked. -/
theorem position?_extended {steps : List (Step Label)}
    (hnew : (steps.filterMap Step.marked?).Nodup) {label : Label} {place : ℕ}
    (h : (label, place) ∈ marks 0 steps) :
    (empty.extended 0 steps).position? label = some (.capped place) := by
  have hkeys : ((marks 0 steps).map (Prod.map id Offset.capped)).map Prod.fst =
      steps.filterMap Step.marked? := by
    rw [List.map_map, ← map_fst_marks 0 steps]
    rfl
  rw [position?]
  refine lookup_of_mem ?_ ?_
  · simp only [extended, empty, List.append_nil, List.map_reverse, hkeys]
    exact List.pairwise_reverse.2 (hnew.imp Ne.symm)
  · simp only [extended, empty, List.append_nil, List.mem_reverse, List.mem_map]
    exact ⟨(label, place), h, rfl⟩

/-- The operations, when the goals are resolved one by one. -/
private theorem foldlM_resolve (b : BodyBuilder Label) (target : Label → Offset)
    (steps : List (Step Label)) (place : ℕ) (before : Body)
    (hmarked : ∀ label ∈ steps.filterMap Step.goal?, b.position? label = some (target label)) :
    (goals before.length steps).foldlM b.resolve
        (before ++ lay (fun _ => 0) place steps : Body).toArray =
      .ok (before ++ lay target place steps).toArray := by
  induction steps generalizing place before with
  | nil => rfl
  | cons s steps ih =>
    cases s with
    | append kind operand =>
      have h := ih (place + Operation.sizeOf kind operand)
        (before ++ [⟨.capped place, kind, operand⟩]) hmarked
      simpa [lay, goals] using h
    | appendTo kind label =>
      have hlabel : b.position? label = some (target label) := hmarked label List.mem_cons_self
      have h := ih (place + Operation.sizeOf kind (.target 0))
        (before ++ [⟨.capped place, kind, .target (target label)⟩])
        fun l hl => hmarked l (List.mem_cons_of_mem _ hl)
      have hresolve : b.resolve (before ++ lay (fun _ => 0) place
            (.appendTo kind label :: steps) : Body).toArray (before.length, label) =
          .ok ((before ++ [⟨.capped place, kind, .target (target label)⟩]) ++
            lay (fun _ => 0) (place + Operation.sizeOf kind (.target 0)) steps : Body).toArray := by
        rw [resolve, hlabel]
        refine congrArg Except.ok (Array.toList_inj.1 ?_)
        rw [Array.toList_modify, lay, List.modify_eq_take_cons_drop (by simp)]
        simp
      rw [goals, List.foldlM_cons, hresolve]
      simpa [lay, bind, Except.bind] using h
    | skip bytes => exact ih (place + bytes.toNat) before hmarked
    | mark label => exact ih place before hmarked

/-- The body that steps build, when each label is marked once and every label that is gone to is
marked. -/
theorem build_extended {steps : List (Step Label)} {target : Label → Offset}
    (hnew : (steps.filterMap Step.marked?).Nodup)
    (hmarked : ∀ label ∈ steps.filterMap Step.goal?,
      ∃ place, (label, place) ∈ marks 0 steps ∧ target label = .capped place) :
    (empty.extended 0 steps).build = .ok (lay target 0 steps) := by
  have h := foldlM_resolve (empty.extended 0 steps) target steps 0 [] fun label hl => by
    obtain ⟨place, hplace, htarget⟩ := hmarked label hl
    rw [position?_extended hnew hplace, htarget]
  rw [build]
  simp only [List.length_nil, List.nil_append] at h
  have hpending : (empty.extended 0 steps).pending.reverse = goals 0 steps := by
    simp [extended, empty]
  have happended : (empty.extended 0 steps).appended = (lay (fun _ => 0) 0 steps).toArray := by
    simp [extended, empty]
  rw [hpending, happended, h]
  rfl

end Run

end BodyBuilder

end BuildDrift
