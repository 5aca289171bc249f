import TypeAudit.Proofs.Denylist.Representation

/-! # Entries written as configuration values

An entry can be written as a value in several ways (`Written`): as a record of its fields in any
order, where a field that holds its default may be left out, or by its description alone if both
flags are off.

Whichever way is chosen, the value is well shaped and describes that entry under its bare name
(`Written.wellShaped`, `Written.configured_eq`).  Building from entries reads no more of the names
than the bare names either, so a table of written entries and the entries themselves build the same
denylist, or fail with the same error (`ofTable_eq_ofEntries`). -/

namespace TypeAudit

namespace Entry

/-! ### Writing an entry -/

/-- The value of a field of an entry. -/
def Field.write (e : Entry) : Field → Toml.Value
  | .description => .string e.description
  | .typeHintOnly => .boolean e.typeHintOnly
  | .withSubclasses => .boolean e.withSubclasses

/-- The field holds what it holds if a record leaves it out. -/
def Field.IsDefault (e : Entry) : Field → Prop
  | .description => e.description = ""
  | .typeHintOnly => e.typeHintOnly = false
  | .withSubclasses => e.withSubclasses = false

/-- The record of some fields of an entry, in this order. -/
def record (e : Entry) (fields : List Field) : Toml.Table :=
  fields.map (fun field => (field.key, field.write e))

/-- The value is a way to write the entry. -/
inductive Written (e : Entry) : Toml.Value → Prop
  | description (hhint : e.typeHintOnly = false) (hsub : e.withSubclasses = false) :
      Written e (.string e.description)
  | record (fields : List Field) (hnodup : fields.Nodup)
      (hdefault : ∀ field, field ∉ fields → field.IsDefault e) :
      Written e (.table (e.record fields))

/-! ### Reading it back -/

theorem Field.key_inj {field field' : Field} (h : field.key = field'.key) : field = field' := by
  cases field <;> cases field' <;> simp_all [Field.key]

theorem Field.kind_write (e : Entry) (field : Field) : (field.write e).kind = field.kind := by
  cases field <;> rfl

/-- A record holds the fields it was written with and no others. -/
theorem lookup_record (e : Entry) (fields : List Field) (field : Field) :
    (e.record fields).lookup field.key = if field ∈ fields then some (field.write e) else none := by
  unfold record
  induction fields with
  | nil => rfl
  | cons first rest ih =>
      rw [List.map_cons, List.lookup_cons]
      by_cases hfirst : field = first
      · subst hfirst
        rw [beq_self_eq_true, if_pos List.mem_cons_self]
      · have hkey : field.key ≠ first.key := fun h => hfirst (Field.key_inj h)
        rw [beq_false_of_ne hkey, ih]
        simp [hfirst]

/-- A field is read as it was written; left out, it is read as its default. -/
theorem read_record {α : Type} (read? : Toml.Value → Option α) {e : Entry} {fields : List Field}
    (field : Field) {held default : α} (hread : read? (field.write e) = some held)
    (hdefault : field ∉ fields → held = default) :
    (((e.record fields).lookup field.key).bind read?).getD default = held := by
  rw [lookup_record]
  split_ifs with hmem
  · rw [Option.bind_some, hread, Option.getD_some]
  · exact (hdefault hmem).symm

namespace Written

variable {e : Entry} {v : Toml.Value} (h : Written e v)
include h

theorem wellShaped : WellShaped v := by
  cases h with
  | description => trivial
  | record fields =>
      refine ⟨?_, ?_⟩
      · intro kv hkv
        obtain ⟨field, _, rfl⟩ := List.mem_map.mp hkv
        exact ⟨field, rfl⟩
      · intro field value hvalue
        rw [lookup_record] at hvalue
        split_ifs at hvalue
        cases hvalue
        exact field.kind_write e

theorem configured_eq : configured e.name v = e.normalize := by
  cases h with
  | description hhint hsub =>
      unfold configured normalize
      rw [hhint, hsub]
  | record fields _ hdefault =>
      have hdescription :
          (((e.record fields).lookup "description").bind Toml.Value.text?).getD "" =
            e.description :=
        read_record Toml.Value.text? .description rfl (hdefault .description)
      have hhint :
          (((e.record fields).lookup "typeHintOnly").bind Toml.Value.flag?).getD false =
            e.typeHintOnly :=
        read_record Toml.Value.flag? .typeHintOnly rfl (hdefault .typeHintOnly)
      have hsub :
          (((e.record fields).lookup "withSubclasses").bind Toml.Value.flag?).getD false =
            e.withSubclasses :=
        read_record Toml.Value.flag? .withSubclasses rfl (hdefault .withSubclasses)
      simp only [configured, normalize, hdescription, hhint, hsub]

end Written

end Entry

namespace Denylist

open Entry

/-! ### Tables of written entries -/

/-- The table holds the entries in their order, each written under its name as it stands. -/
def Tabulates (table : Toml.Table) (es : List Entry) : Prop :=
  List.Forall₂ (fun kv e => kv.1 = e.name ∧ Written e kv.2) table es

theorem Tabulates.wellShaped {table : Toml.Table} {es : List Entry} (h : Tabulates table es) :
    ∀ kv ∈ table, WellShaped kv.2 := by
  induction h with
  | nil => exact fun kv hkv => absurd hkv List.not_mem_nil
  | cons hwritten _ ih => exact List.forall_mem_cons.mpr ⟨hwritten.2.wellShaped, ih⟩

theorem Tabulates.map_configured {table : Toml.Table} {es : List Entry} (h : Tabulates table es) :
    table.map (fun kv => configured kv.1 kv.2) = es.map Entry.normalize := by
  induction h with
  | nil => rfl
  | cons hwritten _ ih =>
      rw [List.map_cons, List.map_cons, ih, hwritten.1, hwritten.2.configured_eq]

/-- Entries are refused for their names alone. -/
theorem ofEntries_error_cases {es : List Entry} {error : DenylistError}
    (h : ofEntries es = .error error) :
    error = .emptyName ∨ ∃ e ∈ es, error = .duplicate (TypeName.bare e.name) := by
  obtain ⟨before, name, after, hnames, _, hfault⟩ := (ofEntries_eq_error_iff es error).mp h
  cases hfault with
  | empty => exact Or.inl rfl
  | duplicate =>
      have hmem : name ∈ bareNames es := by
        rw [hnames]
        exact List.mem_append_right before List.mem_cons_self
      obtain ⟨e, he, rfl⟩ := List.mem_map.mp hmem
      exact Or.inr ⟨e, he, rfl⟩

/-- **Tables and entries build the same denylists.**  However the entries are written as values, the
table that holds them in order under their names, bare or not, gives what the entries give: the same
denylist, or the same error, which is that a name is empty or stands twice. -/
theorem ofTable_eq_ofEntries {table : Toml.Table} {es : List Entry} (h : Tabulates table es) :
    ofTable table = ofEntries es ∧
      ∀ error, ofTable table = .error error →
        error = .emptyName ∨ ∃ e ∈ es, error = .duplicate (TypeName.bare e.name) := by
  have hsame : ofTable table = ofEntries es := by
    rw [ofTable_of_wellShaped h.wellShaped, h.map_configured, ofEntries_map_normalize]
  refine ⟨hsame, ?_⟩
  intro error herror
  rw [hsame] at herror
  exact ofEntries_error_cases herror

/-- Three entries, one as a record in another order, one without its defaults and one by its
description; then a qualified name beside the same name without its backslash. -/
theorem ofTable_eq_ofEntries_spellings :
    let a : Entry := { name := "\\A", description := "old", typeHintOnly := true }
    let b : Entry := { name := "B", withSubclasses := true }
    let c : Entry := { name := "C", description := "no" }
    let plain : Entry := { name := "A" }
    let table : Toml.Table :=
      [("\\A", .table [("typeHintOnly", .boolean true), ("withSubclasses", .boolean false),
          ("description", .string "old")]),
        ("B", .table [("withSubclasses", .boolean true)]), ("C", .string "no")]
    let clash : Toml.Table := [("\\A", .table (a.record Field.all)), ("A", .table [])]
    Tabulates table [a, b, c] ∧
      ofTable table = .ok ⟨[a.normalize, b, c], [("C", 2), ("B", 1), ("A", 0)]⟩ ∧
      Tabulates clash [a, plain] ∧ ofTable clash = .error (.duplicate "A") := by
  intro a b c plain table clash
  have ha : Written a (.table (a.record [.typeHintOnly, .withSubclasses, .description])) :=
    .record _ (by decide) (fun field hfield => absurd (by cases field <;> decide) hfield)
  have hb : Written b (.table (b.record [.withSubclasses])) := by
    refine .record _ (by decide) ?_
    intro field hfield
    cases field with
    | description => rfl
    | typeHintOnly => rfl
    | withSubclasses => exact absurd List.mem_cons_self hfield
  have hc : Written c (.string "no") := .description rfl rfl
  have hall : Written a (.table (a.record Field.all)) :=
    .record _ (by decide) (fun field hfield => absurd (mem_all field) hfield)
  have hplain : Written plain (.table (plain.record [])) :=
    .record _ (by decide) (fun field _ => by cases field <;> rfl)
  have htable : Tabulates table [a, b, c] :=
    .cons ⟨rfl, ha⟩ (.cons ⟨rfl, hb⟩ (.cons ⟨rfl, hc⟩ .nil))
  have hclash : Tabulates clash [a, plain] := .cons ⟨rfl, hall⟩ (.cons ⟨rfl, hplain⟩ .nil)
  exact ⟨htable, (ofTable_eq_ofEntries htable).1.trans (by decide), hclash,
    (ofTable_eq_ofEntries hclash).1.trans (by decide)⟩

end Denylist

end TypeAudit
