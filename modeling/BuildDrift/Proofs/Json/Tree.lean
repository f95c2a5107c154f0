import BuildDrift.Json.Node
import BuildDrift.Proofs.Json.Scanning

/-!
# The tree of a value that is written

The tokens of a value make an undamaged tree, which holds what the value holds. The builder keeps
the lists and records that are open in a stack of frames, so the statement about a value is about
every stack and every tail of tokens: when its tokens have been taken up, the builder stands behind
the finished tree with the stack as it was. For the items of a list the innermost frame holds the
items in front of them, for the members of a record those members.

## Main definitions

* `Value.node`: the tree of a value.

## Main results

* `Document.ofText_of_scan`: the document of a text with the tokens of a value is the tree of that
  value, and all of the text.
-/

namespace BuildDrift.Json

namespace Value

mutual

/-- The tree of a value. -/
def node : Value → Node
  | list items => .list (itemNodes items) none
  | record members => .record (memberNodes members) none
  | v => .atom v.token

/-- The trees of the items of a list. -/
def itemNodes : List Value → List Node
  | [] => []
  | v :: rest => v.node :: itemNodes rest

/-- The keys and trees of the members of a record. -/
def memberNodes : List (String × Value) → List (Key × Node)
  | [] => []
  | (key, v) :: rest => (.text (.ok key), v.node) :: memberNodes rest

end

theorem itemNodes_eq_map (items : List Value) : itemNodes items = items.map node := by
  induction items with
  | nil => rfl
  | cons v rest ih => rw [itemNodes, ih, List.map_cons]

/-- A value begins with a token that is no closing bracket. -/
theorem exists_head_tokens (v : Value) :
    ∃ token rest, v.tokens = token :: rest ∧ token ≠ .closeList := by
  cases v with
  | list items => exact ⟨_, _, rfl, by simp⟩
  | record members => exact ⟨_, _, rfl, by simp⟩
  | float x =>
    refine ⟨_, _, rfl, ?_⟩
    rw [token]
    split_ifs <;> simp
  | _ => exact ⟨_, _, rfl, by simp [token]⟩

/-- The items of a list begin with the tokens of the first. -/
theorem exists_itemTokens_cons (v : Value) (items : List Value) :
    ∃ tail, itemTokens (v :: items) = v.tokens ++ tail := by
  cases items with
  | nil => exact ⟨[], (List.append_nil _).symm⟩
  | cons w items => exact ⟨_, rfl⟩

/-- The members of a record begin with the first key. -/
theorem exists_memberTokens_cons (key : String) (v : Value) (members : List (String × Value)) :
    ∃ tail, memberTokens ((key, v) :: members) = .text (.ok key) :: tail := by
  cases members with
  | nil => exact ⟨_, rfl⟩
  | cons w members => exact ⟨_, rfl⟩

end Value

namespace Document

variable (frames : List Frame) (rest : List Token)

open Value (itemTokens memberTokens itemNodes memberNodes)

/-- Where a list has just been opened, a value is its first item. -/
theorem build_firstItem (v : Value) :
    build frames .firstItem (v.tokens ++ rest) =
      build (.list [] :: frames) .value (v.tokens ++ rest) := by
  obtain ⟨token, tail, htokens, hne⟩ := v.exists_head_tokens
  rw [htokens, List.cons_append, build, build, Step.ofToken, Step.ofToken]
  exact hne

/-- Taking up one more element moves it over to those that are done. -/
theorem reverse_append_cons {α : Type} (done : List α) (a : α) (more : List α) :
    done.reverse ++ a :: more = (a :: done).reverse ++ more := by
  rw [List.reverse_cons, List.append_assoc, List.singleton_append]

theorem build_scalar (v : Value) :
    build frames .value (v.token :: rest) = build frames (.after (.atom v.token)) rest := by
  cases v with
  | float x =>
    rw [Value.token]
    split_ifs <;> rfl
  | _ => rfl

mutual

/-- The tokens of a value make its tree. -/
theorem build_value (frames : List Frame) (rest : List Token) :
    ∀ v : Value, build frames .value (v.tokens ++ rest) = build frames (.after v.node) rest
  | .null => build_scalar frames rest .null
  | .bool b => build_scalar frames rest (.bool b)
  | .int n => build_scalar frames rest (.int n)
  | .float x => build_scalar frames rest (.float x)
  | .text s => build_scalar frames rest (.text s)
  | .list [] => rfl
  | .list (v :: items) => by
    obtain ⟨tail, htail⟩ := Value.exists_itemTokens_cons v items
    -- The bracket asks for a first item, which begins like any further one.
    have hitems := build_items frames rest [] (v :: items) (List.cons_ne_nil _ _)
    rw [htail, List.append_assoc, ← build_firstItem, ← List.append_assoc, ← htail] at hitems
    rw [Value.tokens, List.cons_append, List.append_assoc]
    exact hitems
  | .record [] => rfl
  | .record ((key, v) :: members) => by
    rw [Value.tokens, List.cons_append, List.append_assoc]
    obtain ⟨tail, htail⟩ := Value.exists_memberTokens_cons key v members
    have hmembers := build_members frames rest [] ((key, v) :: members) (List.cons_ne_nil _ _)
    rw [htail] at hmembers ⊢
    exact hmembers

/-- The tokens of the further items of a list make their trees. -/
theorem build_items (frames : List Frame) (rest : List Token) (done : List Node) :
    ∀ items, items ≠ [] →
      build (.list done :: frames) .value (itemTokens items ++ .closeList :: rest) =
        build frames (.after (.list (done.reverse ++ itemNodes items) none)) rest
  | [], hne => absurd rfl hne
  | [v], _ => by
    rw [itemTokens, build_value, itemNodes, reverse_append_cons, itemNodes, List.append_nil]
    rfl
  | v :: w :: items, _ => by
    have hitems := build_items frames rest (v.node :: done) (w :: items) (List.cons_ne_nil _ _)
    rw [itemTokens, List.append_assoc, List.cons_append, build_value, itemNodes,
      reverse_append_cons]
    · exact hitems
    · exact List.cons_ne_nil _ _

/-- The tokens of the further members of a record make their keys and trees. -/
theorem build_members (frames : List Frame) (rest : List Token) (done : List (Key × Node)) :
    ∀ members, members ≠ [] →
      build frames (.member done) (memberTokens members ++ .closeRecord :: rest) =
        build frames (.after (.record (done.reverse ++ memberNodes members) none)) rest
  | [], hne => absurd rfl hne
  | [(key, v)], _ => by
    have hvalue := build_value (.record done (.text (.ok key)) :: frames) (.closeRecord :: rest) v
    rw [memberTokens, memberNodes, reverse_append_cons, memberNodes, List.append_nil]
    exact hvalue
  | (key, v) :: next :: members, _ => by
    have hvalue := build_value (.record done (.text (.ok key)) :: frames)
      (.comma :: (memberTokens (next :: members) ++ .closeRecord :: rest)) v
    have hmembers := build_members frames rest ((.text (.ok key), v.node) :: done)
      (next :: members) (List.cons_ne_nil _ _)
    rw [memberTokens, memberNodes, reverse_append_cons, List.cons_append, List.cons_append,
      List.append_assoc, List.cons_append]
    · exact hvalue.trans hmembers
    · exact List.cons_ne_nil _ _

end

/-- The document of a text with the tokens of a value is the tree of that value, and all of the
text. -/
theorem ofText_of_scan {text : String} {v : Value} (h : Token.scan text = v.tokens) :
    ofText text = ⟨v.node, true⟩ := by
  have hbuild := build_value [] [] v
  rw [List.append_nil] at hbuild
  rw [ofText, h, hbuild]
  rfl

end Document

end BuildDrift.Json
