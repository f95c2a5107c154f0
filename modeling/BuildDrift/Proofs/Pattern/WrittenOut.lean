import BuildDrift.Proofs.Pattern.Marks

/-!
# Expressions that are written out

Before an expression is matched its repetitions are written out and its rows and choices are
paired up into a balanced tree. Neither changes what matches, so the search by marks finds a match
of an expression exactly where there is one.

## Main results

* `Marked.map_gather`: a balanced tree means the same as the list it is made of.
* `Marked.extent_power`: powers by halving.
* `Marked.extent_ofExpression`: an expression that is written out has the same matches.
* `Marked.occursIn_ofExpression_iff`: the search finds a match of an expression if there is one.
-/

namespace BuildDrift.Pattern

open Relation (Comp ReflTransGen)

/-! ### Powers -/

namespace Extent

/-- A number of times, each of which may be left out. -/
theorem power_either_eq_iff {r : Extent} {n : Nat} {p q : Position} :
    (r.either Eq).power n p q ↔ ∃ k ≤ n, r.power k p q := by
  induction n generalizing p with
  | zero =>
    constructor
    · exact fun h => ⟨0, Nat.le_refl 0, h⟩
    · rintro ⟨k, hk, h⟩
      obtain rfl := Nat.le_zero.mp hk
      exact h
  | succ n ih =>
    constructor
    · rintro ⟨s, h | rfl, h'⟩
      · obtain ⟨k, hk, h'⟩ := ih.mp h'
        exact ⟨k + 1, Nat.succ_le_succ hk, s, h, h'⟩
      · obtain ⟨k, hk, h'⟩ := ih.mp h'
        exact ⟨k, Nat.le_succ_of_le hk, h'⟩
    · rintro ⟨k, hk, h⟩
      cases k with
      | zero => exact ⟨p, .inr rfl, ih.mpr ⟨0, Nat.zero_le _, h⟩⟩
      | succ k =>
        obtain ⟨s, h, h'⟩ := h
        exact ⟨s, .inl h, ih.mpr ⟨k, Nat.le_of_succ_le_succ hk, h'⟩⟩

/-- At least a number of times. -/
theorem comp_power_reflTransGen_iff {r : Extent} {n : Nat} {p q : Position} :
    Comp (r.power n) (ReflTransGen r) p q ↔ ∃ k, n ≤ k ∧ r.power k p q := by
  constructor
  · rintro ⟨s, h, h'⟩
    obtain ⟨k, h'⟩ := exists_power_iff.mpr h'
    exact ⟨n + k, Nat.le_add_right n k, power_add r n k ▸ ⟨s, h, h'⟩⟩
  · rintro ⟨k, hk, h⟩
    obtain ⟨j, rfl⟩ := Nat.exists_eq_add_of_le hk
    rw [power_add] at h
    obtain ⟨s, h, h'⟩ := h
    exact ⟨s, h, exists_power_iff.mp ⟨j, h'⟩⟩

/-- At least a number of times and at most some more. -/
theorem comp_power_either_eq_iff {r : Extent} {n j : Nat} {p q : Position} :
    Comp (r.power n) ((r.either Eq).power j) p q ↔ ∃ k, n ≤ k ∧ k ≤ n + j ∧ r.power k p q := by
  constructor
  · rintro ⟨s, h, h'⟩
    obtain ⟨k, hk, h'⟩ := power_either_eq_iff.mp h'
    exact ⟨n + k, Nat.le_add_right n k, Nat.add_le_add_left hk n, power_add r n k ▸ ⟨s, h, h'⟩⟩
  · rintro ⟨k, hn, hk, h⟩
    obtain ⟨i, rfl⟩ := Nat.exists_eq_add_of_le hn
    rw [power_add] at h
    obtain ⟨s, h, h'⟩ := h
    exact ⟨s, h, power_either_eq_iff.mpr ⟨i, Nat.le_of_add_le_add_left hk, h'⟩⟩

end Extent

namespace Marked

/-! ### Balanced trees -/

theorem length_pairUp (combine : Marked → Marked → Marked) :
    ∀ ms : List Marked, (pairUp combine ms).length = (ms.length + 1) / 2
  | [] => rfl
  | [_] => by simp [pairUp]
  | a :: b :: rest => by
    have ih := length_pairUp combine rest
    rw [pairUp, List.length_cons, ih, List.length_cons, List.length_cons]
    omega

section Gather

variable {α : Type*} {combine : Marked → Marked → Marked} {unit : Marked} {meaning : Marked → α}
  {op : α → α → α}

theorem foldr_pairUp (hop : ∀ a b, meaning (combine a b) = op (meaning a) (meaning b))
    (assoc : ∀ x y z, op (op x y) z = op x (op y z)) (e : α) :
    ∀ ms : List Marked,
      ((pairUp combine ms).map meaning).foldr op e = (ms.map meaning).foldr op e
  | [] => rfl
  | [_] => rfl
  | a :: b :: rest => by
    have ih := foldr_pairUp hop assoc e rest
    rw [pairUp, List.map_cons, List.foldr_cons, ih, hop, assoc]
    rfl

/-- What a list is combined into means what the parts mean, combined one by one, if the order of
combining does not matter. -/
theorem map_gather (hop : ∀ a b, meaning (combine a b) = op (meaning a) (meaning b))
    (assoc : ∀ x y z, op (op x y) z = op x (op y z)) (hunit : ∀ x, op x (meaning unit) = x)
    (n : Nat) (ms : List Marked) (hn : ms.length ≤ n + 1) :
    meaning (gather combine unit n ms) = (ms.map meaning).foldr op (meaning unit) := by
  induction n, ms using gather.induct combine with
  | case1 n => rw [gather]; rfl
  | case2 n m => rw [gather, List.map_singleton, List.foldr_cons, List.foldr_nil, hunit]
  | case3 m rest hrest =>
    -- a single part is left before the fuel is used up
    rw [List.length_cons, Nat.succ_le_succ_iff, Nat.le_zero, List.length_eq_zero_iff] at hn
    exact absurd hn hrest
  | case4 n ms hnil hone ih =>
    have hshort : (pairUp combine ms).length ≤ n + 1 := by
      rw [length_pairUp]
      omega
    rw [gather.eq_4 _ _ _ _ hnil hone, ih hshort, foldr_pairUp hop assoc]

end Gather

theorem extent_gather_seq (ms : List Marked) :
    (gather seq empty ms.length ms).extent = .row (ms.map extent) :=
  map_gather (fun _ _ => rfl) (fun _ _ _ => Relation.comp_assoc) (fun _ => Relation.comp_eq) _ ms
    (Nat.le_succ _)

theorem extent_gather_alt (ms : List Marked) :
    (gather alt never ms.length ms).extent = .anyOf (ms.map extent) :=
  map_gather (fun _ _ => rfl) Extent.either_assoc Extent.either_never _ ms (Nat.le_succ _)

theorem unmarked_gather {combine : Marked → Marked → Marked} {unit : Marked}
    (hop : ∀ a b, (combine a b).unmarked = (a.unmarked && b.unmarked))
    (hunit : unit.unmarked = true) {ms : List Marked} (h : ∀ m ∈ ms, m.unmarked = true) :
    (gather combine unit ms.length ms).unmarked = true := by
  rw [map_gather hop Bool.and_assoc (fun x => hunit ▸ Bool.and_true x) _ ms (Nat.le_succ _), hunit]
  refine List.foldrRecOn (motive := fun b => b = true) _ _ rfl fun b hb a ha => ?_
  obtain ⟨m, hm, rfl⟩ := List.mem_map.mp ha
  exact (Bool.and_eq_true _ _).mpr ⟨h m hm, hb⟩

/-! ### Repetitions -/

theorem extent_power (m : Marked) (n : Nat) : (power m n).extent = m.extent.power n := by
  induction n using power.induct m with
  | case1 => rw [power, if_pos rfl]; rfl
  | case2 => rw [power, if_neg Nat.one_ne_zero, if_pos rfl, Extent.power_one]
  | case3 n h₀ h₁ heven ih =>
    rw [power, if_neg h₀, if_neg h₁, if_pos heven, extent, ih, ← Extent.power_add]
    congr 1
    omega
  | case4 n h₀ h₁ hodd ih =>
    rw [power, if_neg h₀, if_neg h₁, if_neg hodd, extent, extent, ih, ← Extent.power_add]
    change m.extent.power (n / 2 + n / 2 + 1) = _
    congr 1
    omega

theorem unmarked_power {m : Marked} (h : m.unmarked = true) (n : Nat) :
    (power m n).unmarked = true := by
  induction n using power.induct m with
  | case1 => rw [power, if_pos rfl]; rfl
  | case2 => rw [power, if_neg Nat.one_ne_zero, if_pos rfl, h]
  | case3 n h₀ h₁ heven ih =>
    rw [power, if_neg h₀, if_neg h₁, if_pos heven, unmarked, ih, Bool.and_self]
  | case4 n h₀ h₁ hodd ih =>
    rw [power, if_neg h₀, if_neg h₁, if_neg hodd, unmarked, unmarked, ih, h, Bool.and_self,
      Bool.and_self]

/-! ### Expressions -/

theorem contains_single_iff {c d : Char} :
    (CodePointSet.single c).contains d = true ↔ d = c := by
  have h : (CodePointSet.single c).contains d = true ↔ c.toNat ≤ d.toNat ∧ d.toNat ≤ c.toNat := by
    simp [CodePointSet.contains, CodePointSet.containsCode, CodePointSet.single,
      CodePointSet.range]
  rw [h, ← Nat.eq_iff_le_and_ge, Char.toNat_inj, eq_comm]

theorem extent_single (mark : Bool) (c : Char) :
    (chars mark (.single c)).extent = Position.Reads (· = c) := by
  simp only [extent, contains_single_iff]

mutual

/-- Writing an expression out does not change what it matches. -/
theorem extent_ofExpression : ∀ e : Expression, (ofExpression e).extent = e.extent
  | .empty | .chars _ _ | .look _ => by rw [ofExpression]; rfl
  | .text cs => by
    rw [ofExpression, ← List.length_map, extent_gather_seq, List.map_map, Expression.extent]
    congr 2
    funext c
    exact extent_single false c
  | .group _ body => by rw [ofExpression, extent_ofExpression body]; rfl
  | .seq parts => by
    rw [ofExpression, extent_gather_seq, map_extent_ofExpressions parts]
    rfl
  | .alt choices => by
    rw [ofExpression, extent_gather_alt, map_extent_ofExpressions choices]
    rfl
  | .times body min none _ => by
    rw [ofExpression, extent, extent_power, extent, extent_ofExpression body, Expression.extent]
    funext p q
    rw [Extent.comp_power_reflTransGen_iff]
    simp only [Option.mem_def, reduceCtorEq, false_implies, implies_true, true_and]
  | .times body min (some max) _ => by
    rw [ofExpression, extent, extent_power, extent_power, extent, extent,
      extent_ofExpression body, Expression.extent]
    have hmax : Nat.max min max = min + (max - min) := by
      change Max.max min max = _
      omega
    funext p q
    rw [Extent.comp_power_either_eq_iff]
    simp only [Option.mem_def, Option.some.injEq, forall_eq', hmax]

theorem map_extent_ofExpressions :
    ∀ es : List Expression, (ofExpressions es).map extent = Expression.extents es
  | [] => rfl
  | e :: rest => by
    rw [ofExpressions, List.map_cons, extent_ofExpression e, map_extent_ofExpressions rest]
    rfl

end

mutual

theorem unmarked_ofExpression : ∀ e : Expression, (ofExpression e).unmarked = true
  | .empty | .chars _ _ | .look _ => by rw [ofExpression]; rfl
  | .text cs => by
    rw [ofExpression, ← List.length_map]
    refine unmarked_gather (fun _ _ => rfl) rfl fun m hm => ?_
    obtain ⟨c, -, rfl⟩ := List.mem_map.mp hm
    rfl
  | .group _ body => by rw [ofExpression, unmarked_ofExpression body]
  | .seq parts => by
    rw [ofExpression]
    exact unmarked_gather (fun _ _ => rfl) rfl (unmarked_ofExpressions parts)
  | .alt choices => by
    rw [ofExpression]
    exact unmarked_gather (fun _ _ => rfl) rfl (unmarked_ofExpressions choices)
  | .times body min none _ => by
    have h := unmarked_ofExpression body
    rw [ofExpression, unmarked, unmarked_power h, unmarked, h, Bool.and_self]
  | .times body min (some max) _ => by
    have h := unmarked_ofExpression body
    have hopt : (alt (ofExpression body) empty).unmarked = true := by rw [unmarked, h]; rfl
    rw [ofExpression, unmarked, unmarked_power h, unmarked_power hopt, Bool.and_self]

theorem unmarked_ofExpressions :
    ∀ es : List Expression, ∀ m ∈ ofExpressions es, m.unmarked = true
  | [] => nofun
  | e :: rest => by
    rw [ofExpressions, List.forall_mem_cons]
    exact ⟨unmarked_ofExpression e, unmarked_ofExpressions rest⟩

end

/-- The search by marks finds a match of an expression in a text if there is one. -/
theorem occursIn_ofExpression_iff (e : Expression) (text : String) :
    (ofExpression e).occursIn text = true ↔ e.OccursIn text := by
  rw [occursIn_iff (unmarked_ofExpression e), extent_ofExpression]
  rfl

end Marked

end BuildDrift.Pattern
