import BuildDrift.Proofs.Json.Reading
import BuildDrift.Proofs.Pattern.Wildcard
import BuildDrift.Selection.IgnoreRules

/-!
# Ignore rules are read back

Rules are written as three lists of entries, each the text of a pattern and the name of its kind.
Reading looks up the kind and makes the pattern anew. Since a pattern is determined by its text and
its kind, it comes back as it was, unless its text is empty: such a pattern is refused. No pattern
that was made or read has an empty text, so all rules that can be had in one of these ways are read
back, every pattern in its own list and at its own place.

## Main definitions

* `NamePattern.Made`, `IgnoreRules.Made`: patterns that were made from some text.
* `IgnoreRules.AnswersLike`: rules with the same lists and the same answers to every name.

## Main results

* `NamePattern.parse_name_iff`: a pattern that was made is made again from what is written of it.
* `IgnoreRules.fromJson_toJson_eq`: the rules that are read from the document of rules.
* `IgnoreRules.made_of_fromJson`: rules that are read hold only patterns that were made.
* `IgnoreRules.fromJson_toJson_answersLike`: rules are read back and answer as before.
-/

namespace BuildDrift

open Json

/-- A reading in two steps succeeds if each step does. -/
private theorem bind_eq_ok_iff {ε α β : Type} {x : Except ε α} {f : α → Except ε β} {b : β} :
    x.bind f = .ok b ↔ ∃ a, x = .ok a ∧ f a = .ok b := by
  cases x with
  | error e => exact ⟨nofun, nofun⟩
  | ok a => exact ⟨fun h => ⟨a, rfl, h⟩, fun ⟨_, rfl, h⟩ => h⟩

/-! ### Patterns -/

namespace NamePattern

theorem Kind.parse_name (k : Kind) : Kind.parse k.name = .ok k := by
  cases k <;> rfl

/-- The pattern was made from some text. -/
def Made (p : NamePattern) : Prop :=
  ∃ text kind, make text kind = .ok p

/-- Only a pattern with an empty text was never made. -/
theorem made_iff {p : NamePattern} : p.Made ↔ p.text.isEmpty = false := by
  constructor
  · rintro ⟨text, kind, h⟩
    obtain ⟨hne, rfl, -⟩ := make_eq_ok_iff.1 h
    exact hne
  · intro h
    exact ⟨p.text, p.kind, make_eq_ok_iff.2 ⟨h, rfl, rfl⟩⟩

/-- A pattern that was made is made again from its text and the name of its kind. -/
theorem parse_name_iff {p : NamePattern} : parse p.text p.kind.name = .ok p ↔ p.Made := by
  rw [parse, Kind.parse_name, made_iff]
  exact make_eq_ok_iff.trans ⟨And.left, fun h => ⟨h, rfl, rfl⟩⟩

theorem made_of_parse {text kindName : String} {p : NamePattern}
    (h : parse text kindName = .ok p) : p.Made := by
  obtain ⟨kind, -, h⟩ := bind_eq_ok_iff.1 h
  exact ⟨text, kind, h⟩

end NamePattern

namespace IgnoreRules

/-! ### Entries -/

/-- What is written of a pattern. -/
def entry (p : NamePattern) : Entry :=
  (p.text, p.kind.name)

theorem decodeEntry_entryToValue (p : NamePattern) :
    decodeEntry (entryToValue p).node = .ok (entry p) := by
  have hgiven : entryFields.Given [("pattern", .text p.text), ("kind", .text p.kind.name)]
      (p.text, p.kind.name, ()) :=
    .cons rfl <| .cons rfl .nil
  rw [decodeEntry, entryToValue, hgiven.decode (by decide)]
  rfl

theorem readPatterns_cons (e : Entry) (entries : List Entry) :
    readPatterns (e :: entries) = (NamePattern.parse e.1 e.2).bind fun p =>
      (readPatterns entries).bind fun ps => .ok (p :: ps) := by
  rw [readPatterns, List.mapM_cons]
  rfl

/-- Every pattern that was made is read back at its place. -/
theorem readPatterns_entry {ps : List NamePattern} (h : ∀ p ∈ ps, p.Made) :
    readPatterns (ps.map entry) = .ok ps := by
  induction ps with
  | nil => rfl
  | cons p ps ih =>
    obtain ⟨hp, hps⟩ := List.forall_mem_cons.1 h
    rw [List.map_cons, readPatterns_cons, entry, NamePattern.parse_name_iff.2 hp, ih hps]
    rfl

theorem made_of_readPatterns {entries : List Entry} {ps : List NamePattern}
    (h : readPatterns entries = .ok ps) : ∀ p ∈ ps, p.Made := by
  induction entries generalizing ps with
  | nil =>
    cases h
    exact fun p hp => absurd hp List.not_mem_nil
  | cons e entries ih =>
    rw [readPatterns_cons] at h
    obtain ⟨p, hfirst, h⟩ := bind_eq_ok_iff.1 h
    obtain ⟨rest, hrest, ⟨⟩⟩ := bind_eq_ok_iff.1 h
    exact List.forall_mem_cons.2 ⟨NamePattern.made_of_parse hfirst, ih hrest⟩

/-! ### Rules -/

variable {r s : IgnoreRules}

/-- Every pattern of the rules was made from some text. -/
structure Made (r : IgnoreRules) : Prop where
  /-- The patterns for types. -/
  types : ∀ p ∈ r.types, p.Made
  /-- The patterns for methods. -/
  members : ∀ p ∈ r.members, p.Made
  /-- The patterns for fields. -/
  fields : ∀ p ∈ r.fields, p.Made

/-- The document of rules is read as the entries of the three lists, each list as its own. -/
theorem ofText_toJson (r : IgnoreRules) :
    Decoder.ofText (documentFields.decode "RawIgnoreConfig") r.toJson =
      .ok (r.types.map entry, r.members.map entry, r.fields.map entry, ()) := by
  have hgiven : documentFields.Given [("forbidden_types", .list (r.types.map entryToValue)),
      ("forbidden_members", .list (r.members.map entryToValue)),
      ("forbidden_fields", .list (r.fields.map entryToValue))]
      (r.types.map entry, r.members.map entry, r.fields.map entry, ()) :=
    .cons (Decoder.list_map_ok fun p _ => decodeEntry_entryToValue p) <|
      .cons (Decoder.list_map_ok fun p _ => decodeEntry_entryToValue p) <|
      .cons (Decoder.list_map_ok fun p _ => decodeEntry_entryToValue p) .nil
  rw [toJson, Decoder.ofText_indented, toValue, hgiven.decode (by decide)]

/-- What is read from the document of rules is what is read from the entries of the lists. -/
theorem fromJson_toJson_eq (r : IgnoreRules) :
    fromJson r.toJson = (readPatterns (r.types.map entry)).bind fun types =>
      (readPatterns (r.members.map entry)).bind fun members =>
        (readPatterns (r.fields.map entry)).map fun fields => ⟨types, members, fields⟩ := by
  rw [fromJson, ofText_toJson]
  rfl

/-- Rules that are read from any text hold only patterns that were made. -/
theorem made_of_fromJson {text : String} (h : fromJson text = .ok r) : r.Made := by
  obtain ⟨⟨types, members, fields, ⟨⟩⟩, -, h⟩ := bind_eq_ok_iff.1 h
  obtain ⟨ts, htypes, h⟩ := bind_eq_ok_iff.1 h
  obtain ⟨ms, hmembers, h⟩ := bind_eq_ok_iff.1 h
  obtain ⟨fs, hfields, ⟨⟩⟩ := bind_eq_ok_iff.1 h
  exact ⟨made_of_readPatterns htypes, made_of_readPatterns hmembers, made_of_readPatterns hfields⟩

/-- Rules are read back exactly when each of their patterns was made. -/
theorem fromJson_toJson_iff : fromJson r.toJson = .ok r ↔ r.Made := by
  refine ⟨made_of_fromJson, fun h => ?_⟩
  rw [fromJson_toJson_eq, readPatterns_entry h.types, readPatterns_entry h.members,
    readPatterns_entry h.fields]
  rfl

/-- The same lists, and the same answers to every name. -/
structure AnswersLike (s r : IgnoreRules) : Prop where
  /-- The patterns for types, in order. -/
  types : s.types = r.types
  /-- The patterns for methods, in order. -/
  members : s.members = r.members
  /-- The patterns for fields, in order. -/
  fields : s.fields = r.fields
  /-- The same types are ignored. -/
  ignoresType (fullName : String) : s.ignoresType fullName = r.ignoresType fullName
  /-- The same methods are ignored. -/
  ignoresMethod (typeName name : String) :
    s.ignoresMethod typeName name = r.ignoresMethod typeName name
  /-- The same fields are ignored. -/
  ignoresField (typeName name : String) :
    s.ignoresField typeName name = r.ignoresField typeName name
  /-- Every exclusion, in order, covers the same items. -/
  exclusions (kind : ItemKind) (name : String) :
    s.exclusions.map (fun e => e.covers kind name) =
      r.exclusions.map fun e => e.covers kind name

theorem AnswersLike.refl (r : IgnoreRules) : r.AnswersLike r :=
  ⟨rfl, rfl, rfl, fun _ => rfl, fun _ _ => rfl, fun _ _ => rfl, fun _ _ => rfl⟩

/-- Rules whose patterns were made, and rules that were read from any text, are read back from their
document. The rules that are read are equal to them and answer every name as before. -/
theorem fromJson_toJson_answersLike (h : r.Made ∨ ∃ text, fromJson text = .ok r) :
    ∃ s, fromJson r.toJson = .ok s ∧ s = r ∧ s.AnswersLike r := by
  have hmade : r.Made := h.elim id fun ⟨_, htext⟩ => made_of_fromJson htext
  exact ⟨r, fromJson_toJson_iff.2 hmade, rfl, .refl r⟩

theorem exists_made_sample : ∃ r : IgnoreRules, r.Made ∧
    r.types.map entry = [("A*+?", "Wildcard"), ("A*+?", "ExactString")] ∧
    r.members.map entry = [("ToString", "ExactString")] ∧
    r.fields.map entry = [("k_B$", "Regex")] := by
  obtain ⟨wildcard, hwildcard⟩ := NamePattern.exists_make_wildcard_iff.2
    ⟨by decide +kernel, NamePattern.fits_sample⟩
  obtain ⟨meaning, hmeaning⟩ : ∃ meaning, NamePattern.Meaning.read? .regex "k_B$" = some meaning :=
    Option.isSome_iff_exists.1 (by decide +kernel)
  obtain ⟨-, htext, hkind⟩ := NamePattern.make_eq_ok_iff.1 hwildcard
  refine ⟨⟨[wildcard, ⟨"A*+?", .exact, _, rfl⟩], [⟨"ToString", .exact, _, rfl⟩],
    [⟨"k_B$", .regex, meaning, hmeaning⟩]⟩, ⟨?_, ?_, ?_⟩, ?_, rfl, rfl⟩
  · simp only [List.forall_mem_cons, NamePattern.made_iff, htext]
    decide +kernel
  · simp only [List.forall_mem_cons, NamePattern.made_iff]
    decide +kernel
  · simp only [List.forall_mem_cons, NamePattern.made_iff]
    decide +kernel
  · simp only [List.map_cons, List.map_nil, entry, htext, hkind]
    rfl

/-- One text stands for two patterns, which are told apart by the kind. -/
theorem fromJson_toJson_sample : ∃ r : IgnoreRules,
    r.types.map entry = [("A*+?", "Wildcard"), ("A*+?", "ExactString")] ∧
    r.members.map entry = [("ToString", "ExactString")] ∧
    r.fields.map entry = [("k_B$", "Regex")] ∧
    ∃ s, fromJson r.toJson = .ok s ∧ s = r ∧ s.AnswersLike r := by
  obtain ⟨r, hmade, htypes, hmembers, hfields⟩ := exists_made_sample
  exact ⟨r, htypes, hmembers, hfields, fromJson_toJson_answersLike (.inl hmade)⟩

end IgnoreRules

end BuildDrift
