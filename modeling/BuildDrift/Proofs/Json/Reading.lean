import BuildDrift.Json.Tagged
import BuildDrift.Proofs.Json.Tree

/-!
# Values that are read back

What is written as a value of some form is read back by the decoder of that form: whole numbers that
are in range, lists item by item, variants by their name, and records that give every field in
order, as long as no two fields have one name.

## Main definitions

* `Fields.readAll`: the values of members in the order of the fields, or the first fault.
* `Fields.Given`: members that give every field in order, each with a value that is read.

## Main results

* `Decoder.integer_int`: a whole number in range is read back.
* `Decoder.list_map_node`: a list is read item by item; `Decoder.list_map`: it is read back if its
  items are.
* `Choice.decode_text`, `Choice.decode_record`: a variant is read back.
* `Fields.decode_record`: a record that gives every field in order is read field by field;
  `Fields.Given.decode`: it is read back if its members are.
* `Decoder.ofText_of_scan`: what is read from the tree of a value is read from every text with its
  tokens, such as the indented one.
* `Tagged.decode_record`: a variant that is named by a member is read back.
-/

namespace BuildDrift.Json

/-! ### Whole texts, single values and lists -/

namespace Decoder

variable {α : Type}

/-- What is read from the tree of a value is read from every text with its tokens. -/
theorem ofText_of_scan (read : Decoder α) {text : String} {v : Value}
    (h : Token.scan text = v.tokens) : ofText read text = read v.node := by
  rw [ofText, Document.ofText_of_scan h]
  cases read v.node <;> rfl

theorem ofText_indented (read : Decoder α) (v : Value) : ofText read v.indented = read v.node :=
  ofText_of_scan read v.scan_indented

/-- A string is read back. -/
theorem text_text (s : String) : text (Value.text s).node = .ok s :=
  rfl

/-- A whole number in range is read back. -/
theorem integer_int {low high i : Int} (hlow : low ≤ i) (hhigh : i ≤ high)
    (hleast : -9223372036854775808 ≤ low) (hgreatest : high ≤ 18446744073709551615)
    (expected : String) : integer low high expected (Value.int i).node = .ok i := by
  have hvalue : (Numeral.ofInt i).value? = some (.int i) :=
    Numeral.value?_ofInt (Int.le_trans hleast hlow) (Int.le_trans hhigh hgreatest)
  rw [Value.node, Value.token, integer, hvalue]
  · exact if_pos ⟨hlow, hhigh⟩
  all_goals simp

theorem word16_int (w : UInt16) : word16 (Value.int w.toNat).node = .ok w := by
  have hlt := w.toNat_lt
  rw [word16, integer_int (by omega) (by omega) (by decide) (by decide), Except.map,
    Int.toNat_natCast, UInt16.ofNat_toNat]

theorem word32_int (w : UInt32) : word32 (Value.int w.toNat).node = .ok w := by
  have hlt := w.toNat_lt
  rw [word32, integer_int (by omega) (by omega) (by decide) (by decide), Except.map,
    Int.toNat_natCast, UInt32.ofNat_toNat]

theorem int64_int (n : Int64) : int64 (Value.int n.toInt).node = .ok n := by
  have hlow := n.le_toInt
  have hhigh := n.toInt_lt
  rw [int64, integer_int (by omega) (by omega) (by decide) (by decide), Except.map,
    Int64.ofInt_toInt]

/-- A list that is written item by item is read item by item. -/
theorem list_map_node {β : Type} (read : Decoder α) (write : β → Value) (xs : List β) :
    list read (Value.list (xs.map write)).node = xs.mapM fun x => read (write x).node := by
  rw [Value.node, Value.itemNodes_eq_map, list, List.map_map, List.mapM_map]
  change (xs.mapM fun x => read (write x).node).bind (ended none) = _
  cases xs.mapM fun x => read (write x).node <;> rfl

/-- If every item of a list is read as something, the list is read as the list of that. -/
theorem list_map_ok {β : Type} {read : Decoder α} {write : β → Value} {g : β → α} {xs : List β}
    (h : ∀ x ∈ xs, read (write x).node = .ok (g x)) :
    list read (Value.list (xs.map write)).node = .ok (xs.map g) := by
  rw [list_map_node]
  induction xs with
  | nil => rfl
  | cons x xs ih =>
    rw [List.mapM_cons, h x List.mem_cons_self, ih fun y hy => h y (List.mem_cons_of_mem x hy)]
    rfl

/-- A list is read back if its items are. -/
theorem list_map {read : Decoder α} {write : α → Value} {xs : List α}
    (h : ∀ x ∈ xs, read (write x).node = .ok x) :
    list read (Value.list (xs.map write)).node = .ok xs :=
  (list_map_ok h).trans (by rw [List.map_id'])

end Decoder

/-! ### Variants -/

namespace Choice

variable {α : Type} {variants : List (Variant α)} {name : String} {x : α}

/-- A variant that holds nothing is read back from its name. -/
theorem decode_text (h : find? variants name = some (.nothing x)) :
    decode variants (Value.text name).node = .ok x := by
  have hbare : bare variants name = .ok x := by rw [bare, h]
  exact hbare

/-- A variant that holds a value is read like the value. -/
theorem decode_holding {β : Type} {read : Decoder β} {make : β → α}
    (h : find? variants name = some (.something fun node => (read node).map make)) (v : Value) :
    decode variants (Value.record [(name, v)]).node = (read v.node).map make := by
  have hholding : holding variants name v.node = (read v.node).map make := by rw [holding, h]
  have hdecode : decode variants (Value.record [(name, v)]).node =
      (holding variants name v.node).bind fun value => Decoder.ended none value := rfl
  rw [hdecode, hholding]
  cases read v.node <;> rfl

/-- A variant that holds a value is read back if the value is. -/
theorem decode_record {β : Type} {read : Decoder β} {make : β → α} {v : Value} {y : β}
    (h : find? variants name = some (.something fun node => (read node).map make))
    (hread : read v.node = .ok y) :
    decode variants (Value.record [(name, v)]).node = .ok (make y) := by
  rw [decode_holding h, hread]
  rfl

end Choice

/-! ### Records -/

namespace Fields

variable {types : List Type}

/-- The names of the fields, in order. -/
def names : {types : List Type} → Fields types → List String
  | _, nil => []
  | _, cons field rest => field.name :: rest.names

/-- Every field met, with these values. -/
def allMet : {types : List Type} → Values types → Met types
  | [], _ => ()
  | _ :: _, (x, values) => (some x, allMet values)

/-- Members that give every field in order, each with a value that is read. -/
inductive Given : {types : List Type} → Fields types → List (String × Value) → Values types → Prop
  | nil : Given nil [] ()
  | cons {α : Type} {types : List Type} {field : Field α} {rest : Fields types} {v : Value} {x : α}
      {members : List (String × Value)} {values : Values types} (hread : field.read v.node = .ok x)
      (hrest : Given rest members values) :
      Given (cons field rest) ((field.name, v) :: members) (x, values)

variable {fields : Fields types} {members : List (String × Value)} {values : Values types}

theorem complete_allMet : ∀ {types : List Type} (fields : Fields types) (values : Values types),
    fields.complete (allMet values) = .ok values
  | _, nil, () => rfl
  | _, cons field rest, (x, values) => by
    rw [allMet, complete, complete_allMet rest values]
    rfl

/-- A member of another name leaves the first field as it is. -/
theorem member_cons {α : Type} {field : Field α} {key : String} (hkey : key ≠ field.name)
    (node : Node) (value : Option α) (met : Met types) :
    (cons field fields).member (value, met) (.text (.ok key), node) =
      (fields.member met (.text (.ok key), node)).map fun met => (value, met) := by
  rw [member, member, meet, if_neg hkey]
  cases fields.meet key node met with
  | some result => rfl
  | none => cases node.fault? <;> rfl

theorem foldlM_member_cons {α : Type} {field : Field α}
    (hkeys : ∀ entry ∈ members, entry.1 ≠ field.name) (value : Option α) (met : Met types) :
    (Value.memberNodes members).foldlM (cons field fields).member (value, met) =
      ((Value.memberNodes members).foldlM fields.member met).map fun met => (value, met) := by
  induction members generalizing met with
  | nil => rfl
  | cons entry members ih =>
    obtain ⟨key, v⟩ := entry
    have hrest := ih fun entry hentry => hkeys entry (List.mem_cons_of_mem _ hentry)
    rw [Value.memberNodes, List.foldlM_cons, List.foldlM_cons,
      member_cons (hkeys (key, v) List.mem_cons_self)]
    cases fields.member met (.text (.ok key), v.node) with
    | error f => rfl
    | ok met => exact hrest met

/-- The values of members in the order of the fields, or the first fault. -/
def readAll : {types : List Type} → Fields types → List (String × Value) →
    Except Fault (Values types)
  | _, nil, _ => .ok ()
  | _, cons field rest, (_, v) :: members =>
    (field.read v.node).bind fun x => (rest.readAll members).map fun values => (x, values)
  | _, cons field _, [] => .error (.mismatch ("missing field `" ++ field.name ++ "`"))

/-- After the members every field is met, unless one of them is not read. -/
theorem foldlM_member {types : List Type} {fields : Fields types}
    {members : List (String × Value)} (h : members.map Prod.fst = fields.names)
    (hnames : fields.names.Nodup) :
    (Value.memberNodes members).foldlM fields.member (noneMet types) =
      (fields.readAll members).map allMet := by
  induction fields generalizing members with
  | nil =>
    rw [names, List.map_eq_nil_iff] at h
    rw [h]
    rfl
  | @cons α types field rest ih =>
    obtain ⟨⟨key, v⟩, members, rfl, rfl, hrest⟩ := List.map_eq_cons_iff.1 h
    rw [names, List.nodup_cons] at hnames
    have hkeys : ∀ entry ∈ members, entry.1 ≠ field.name := by
      intro entry hentry heq
      exact hnames.1 (hrest ▸ heq ▸ List.mem_map_of_mem hentry)
    have hfirst : (Fields.cons field rest).member (none, noneMet types)
        (.text (.ok field.name), v.node) =
          (field.read v.node).map fun x => (some x, noneMet types) := by
      simp [member, meet]
    -- The first member meets the first field; the keys of the others are no longer its name.
    rw [Value.memberNodes, List.foldlM_cons, noneMet, hfirst, readAll]
    cases field.read v.node with
    | error f => rfl
    | ok x =>
      refine (foldlM_member_cons hkeys (some x) (noneMet types)).trans ?_
      rw [ih hrest hnames.2]
      cases rest.readAll members <;> rfl

/-- A record that gives every field in order is read field by field. -/
theorem decode_record (h : members.map Prod.fst = fields.names) (hnames : fields.names.Nodup)
    (name : String) : fields.decode name (Value.record members).node = fields.readAll members := by
  rw [Value.node, Fields.decode, foldlM_member h hnames]
  cases fields.readAll members with
  | error f => rfl
  | ok values => exact complete_allMet fields values

namespace Given

theorem map_fst (h : Given fields members values) : members.map Prod.fst = fields.names := by
  induction h with
  | nil => rfl
  | cons hread hrest ih => rw [List.map_cons, ih, names]

theorem readAll_eq (h : Given fields members values) : fields.readAll members = .ok values := by
  induction h with
  | nil => rfl
  | cons hread hrest ih =>
    rw [readAll, hread, ih]
    rfl

/-- A record is read back if its members are. -/
theorem decode (h : Given fields members values) (hnames : fields.names.Nodup) (name : String) :
    fields.decode name (Value.record members).node = .ok values := by
  rw [decode_record h.map_fst hnames, h.readAll_eq]

end Given

end Fields

/-! ### Variants that are named by a member -/

namespace Tagged

variable {α : Type} {variants : List (TaggedVariant α)} {tag : String}
  {members : List (String × Value)}

/-- Members behind the tag are held in order. -/
theorem foldlM_member (hkeys : ∀ entry ∈ members, entry.1 ≠ tag)
    (hheld : ∀ entry ∈ members, entry.2.node.heldFault? nestingLimit = none) (held : Held α) :
    (Value.memberNodes members).foldlM (member tag variants) held =
      .ok { held with members := (Value.memberNodes members).reverse ++ held.members } := by
  induction members generalizing held with
  | nil => rfl
  | cons entry members ih =>
    obtain ⟨key, v⟩ := entry
    obtain ⟨hkey, hkeys⟩ := List.forall_mem_cons.1 hkeys
    obtain ⟨hv, hheld⟩ := List.forall_mem_cons.1 hheld
    have hfirst : member tag variants held (.text (.ok key), v.node) =
        .ok { held with members := (.text (.ok key), v.node) :: held.members } := by
      simp [member, isTag, hkey, memberFault?, Key.fault?, hv]
    rw [Value.memberNodes, List.foldlM_cons, hfirst, List.reverse_cons, List.append_assoc]
    exact ih hkeys hheld _

/-- A variant that is named by the first member is read back if its fields are. -/
theorem decode_record {v : TaggedVariant α} {values : Fields.Values v.types}
    (hfind : variants.find? (fun w => w.name = v.name) = some v)
    (hgiven : v.fields.Given members values) (hnames : v.fields.names.Nodup)
    (htag : tag ∉ v.fields.names)
    (hheld : ∀ entry ∈ members, entry.2.node.heldFault? nestingLimit = none) (type : String) :
    decode type tag variants (Value.record ((tag, .text v.name) :: members)).node =
      .ok (v.make values) := by
  have hkeys : ∀ entry ∈ members, entry.1 ≠ tag := by
    rintro entry hentry rfl
    exact htag (hgiven.map_fst ▸ List.mem_map_of_mem hentry)
  have hnamed : named variants (Value.text v.name).node = .ok v := by
    rw [Value.node, Value.token, named, hfind]
    all_goals simp
  have hfirst : member tag variants {} (.text (.ok tag), (Value.text v.name).node) =
      .ok { variant := some v } := by
    simp [member, isTag, hnamed, Except.map]
  have hmembers : (Value.memberNodes ((tag, .text v.name) :: members)).foldlM
      (member tag variants) {} = .ok ⟨some v, (Value.memberNodes members).reverse ++ []⟩ := by
    rw [Value.memberNodes, List.foldlM_cons, hfirst]
    exact foldlM_member hkeys hheld { variant := some v }
  have hread : v.ofMembers (Value.memberNodes members) = .ok (v.make values) := by
    have hdecode := hgiven.decode hnames v.name
    rw [Value.node] at hdecode
    rw [TaggedVariant.ofMembers, hdecode]
    rfl
  rw [Value.node]
  simp only [decode, hmembers, List.append_nil, List.reverse_reverse]
  exact hread

end Tagged

end BuildDrift.Json
