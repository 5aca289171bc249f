import TypeAudit.Proofs.Denylist.Validity

/-! # Which configuration tables are denylists

The value of every entry must be well shaped (`WellShaped`): a description, or a record whose
keys are fields and whose fields hold values of their kinds.  `ShapeFault` says which error a
misshapen value gives: in a record the first key that is no field comes before every field of the
wrong kind, and these come in the order of `Field.all`, wherever they stand in the record.

Every value is well shaped or has a fault (`wellShaped_or_fault`), so reading it succeeds with
the entry `configured` or fails with that fault.  A table is read in two passes: all shapes first
and then the names, so a misshapen entry comes before an earlier entry whose name is at fault
(`ofTable_outcome`). -/

namespace TypeAudit

/-- All elements have a property, or there is a first one without it. -/
theorem forall_or_first_not {α : Type} (P : α → Prop) (l : List α) :
    (∀ a ∈ l, P a) ∨
      ∃ before a after, l = before ++ a :: after ∧ (∀ b ∈ before, P b) ∧ ¬ P a := by
  induction l with
  | nil => exact Or.inl (fun a ha => absurd ha List.not_mem_nil)
  | cons x l ih =>
      by_cases hx : P x
      · rcases ih with hall | ⟨before, a, after, rfl, hbefore, ha⟩
        · exact Or.inl (List.forall_mem_cons.mpr ⟨hx, hall⟩)
        · exact Or.inr ⟨x :: before, a, after, rfl, List.forall_mem_cons.mpr ⟨hx, hbefore⟩, ha⟩
      · exact Or.inr ⟨[], x, l, rfl, fun b hb => absurd hb List.not_mem_nil, hx⟩

namespace Entry

/-! ### Shapes -/

/-- The key names a field of an entry. -/
def KnownKey (key : String) : Prop := ∃ field : Field, key = field.key

/-- The record holds nothing under the field's key, or a value of the field's kind. -/
def FieldFits (record : Toml.Table) (field : Field) : Prop :=
  ∀ value, record.lookup field.key = some value → value.kind = field.kind

/-- The value describes an entry. -/
def WellShaped : Toml.Value → Prop
  | .string _ => True
  | .table record => (∀ kv ∈ record, KnownKey kv.1) ∧ ∀ field, FieldFits record field
  | _ => False

/-- The value describes no entry for `name`, and this is the error. -/
inductive ShapeFault (name : String) : Toml.Value → DenylistError → Prop
  | value {v : Toml.Value} (hstring : v.kind ≠ .string) (htable : v.kind ≠ .table) :
      ShapeFault name v (.wrongValue name v.kind)
  | unknown {before after : Toml.Table} {key : String} {v : Toml.Value}
      (hbefore : ∀ kv ∈ before, KnownKey kv.1) (hkey : ¬ KnownKey key) :
      ShapeFault name (.table (before ++ (key, v) :: after)) (.unknownField name key)
  | field {record : Toml.Table} {before after : List Field} {field : Field} {v : Toml.Value}
      (hknown : ∀ kv ∈ record, KnownKey kv.1) (hall : Field.all = before ++ field :: after)
      (hbefore : ∀ f ∈ before, FieldFits record f)
      (hlookup : record.lookup field.key = some v) (hkind : v.kind ≠ field.kind) :
      ShapeFault name (.table record) (.wrongField name field v.kind)

/-- The entry a well-shaped value describes. -/
def configured (name : String) : Toml.Value → Entry
  | .string text => { name := TypeName.bare name, description := text }
  | .table record =>
    { name := TypeName.bare name
      description := ((record.lookup "description").bind Toml.Value.text?).getD ""
      typeHintOnly := ((record.lookup "typeHintOnly").bind Toml.Value.flag?).getD false
      withSubclasses := ((record.lookup "withSubclasses").bind Toml.Value.flag?).getD false }
  | _ => { name := TypeName.bare name }

theorem configured_name (name : String) (v : Toml.Value) :
    (configured name v).name = TypeName.bare name := by
  cases v <;> rfl

theorem mem_all (field : Field) : field ∈ Field.all := by
  cases field <;> decide

/-- A record is well shaped, or has a first key that is no field, or a first field that does not
fit. -/
theorem record_wellShaped_or_fault (name : String) (record : Toml.Table) :
    WellShaped (.table record) ∨ ∃ error, ShapeFault name (.table record) error := by
  rcases forall_or_first_not (fun kv => KnownKey kv.1) record with
    hknown | ⟨before, ⟨key, v⟩, after, rfl, hbefore, hkey⟩
  · rcases forall_or_first_not (FieldFits record) Field.all with
      hfits | ⟨before, field, after, hall, hbefore, hfit⟩
    · exact Or.inl ⟨hknown, fun field => hfits field (mem_all field)⟩
    · unfold FieldFits at hfit
      push Not at hfit
      obtain ⟨v, hlookup, hkind⟩ := hfit
      exact Or.inr ⟨_, .field hknown hall hbefore hlookup hkind⟩
  · exact Or.inr ⟨_, .unknown hbefore hkey⟩

theorem wellShaped_or_fault (name : String) (v : Toml.Value) :
    WellShaped v ∨ ∃ error, ShapeFault name v error := by
  cases v with
  | string text => exact Or.inl trivial
  | table record => exact record_wellShaped_or_fault name record
  | _ => exact Or.inr ⟨_, .value (by simp [Toml.Value.kind]) (by simp [Toml.Value.kind])⟩

/-! ### Reading one entry -/

theorem knownKey_iff (key : String) :
    (Field.all.map Field.key).contains key = true ↔ KnownKey key := by
  rw [List.contains_iff_mem, List.mem_map]
  constructor
  · rintro ⟨field, _, rfl⟩
    exact ⟨field, rfl⟩
  · rintro ⟨field, rfl⟩
    exact ⟨field, mem_all field, rfl⟩

theorem unknownKey?_eq_none {record : Toml.Table} (h : ∀ kv ∈ record, KnownKey kv.1) :
    unknownKey? record = none := by
  unfold unknownKey?
  rw [List.find?_eq_none]
  intro key hkey
  obtain ⟨kv, hkv, rfl⟩ := List.mem_map.mp hkey
  rw [(knownKey_iff kv.1).mpr (h kv hkv)]
  decide

theorem unknownKey?_append {before after : Toml.Table} {key : String} {v : Toml.Value}
    (hbefore : ∀ kv ∈ before, KnownKey kv.1) (hkey : ¬ KnownKey key) :
    unknownKey? (before ++ (key, v) :: after) = some key := by
  have hnone := unknownKey?_eq_none hbefore
  unfold unknownKey? at hnone ⊢
  rw [← knownKey_iff, Bool.not_eq_true] at hkey
  rw [List.map_append, List.find?_append, hnone, List.map_cons, List.find?_cons, hkey]
  rfl

section fields
variable {α : Type} {read? : Toml.Value → Option α} {field : Field} (default : α) (name : String)
  {record : Toml.Table} (hread : ∀ v, (read? v).isSome = true ↔ v.kind = field.kind)
include hread

theorem fieldValue_of_fits (hfits : FieldFits record field) :
    fieldValue read? default name record field =
      .ok (((record.lookup field.key).bind read?).getD default) := by
  unfold fieldValue
  cases hlookup : record.lookup field.key with
  | none => rfl
  | some v =>
      obtain ⟨a, ha⟩ := Option.isSome_iff_exists.mp ((hread v).mpr (hfits v hlookup))
      simp only [Option.bind_some, ha, Option.getD_some]

theorem fieldValue_of_lookup {v : Toml.Value} (hlookup : record.lookup field.key = some v)
    (hkind : v.kind ≠ field.kind) :
    fieldValue read? default name record field = .error (.wrongField name field v.kind) := by
  rw [ne_eq, ← hread, Bool.not_eq_true, Option.isSome_eq_false_iff, Option.isNone_iff_eq_none] at hkind
  unfold fieldValue
  simp only [hlookup, hkind]

end fields

theorem ofValue_of_wellShaped (name : String) {v : Toml.Value} (h : WellShaped v) :
    ofValue name v = .ok (configured name v) := by
  cases v with
  | string text => rfl
  | table record =>
      obtain ⟨hknown, hfits⟩ := h
      have hdesc := fieldValue_of_fits "" name Toml.Value.isSome_text?_iff (hfits .description)
      have hhint := fieldValue_of_fits false name Toml.Value.isSome_flag?_iff (hfits .typeHintOnly)
      have hsub := fieldValue_of_fits false name Toml.Value.isSome_flag?_iff (hfits .withSubclasses)
      unfold ofValue ofRecord
      simp only [unknownKey?_eq_none hknown, textField, flagField, hdesc, hhint, hsub]
      rfl
  | _ => exact absurd h id

/-- The fields before a field in the order of checking. -/
theorem field_cases {before after : List Field} {field : Field}
    (hall : Field.all = before ++ field :: after) :
    (before = [] ∧ field = .description) ∨ (before = [.description] ∧ field = .typeHintOnly) ∨
      (before = [.description, .typeHintOnly] ∧ field = .withSubclasses) := by
  unfold Field.all at hall
  match before with
  | [] =>
      cases hall
      exact Or.inl ⟨rfl, rfl⟩
  | [_] =>
      cases hall
      exact Or.inr (Or.inl ⟨rfl, rfl⟩)
  | [_, _] =>
      cases hall
      exact Or.inr (Or.inr ⟨rfl, rfl⟩)
  | _ :: _ :: _ :: _ => simp at hall

theorem ofRecord_of_field {name : String} {record : Toml.Table} {before after : List Field}
    {field : Field} {v : Toml.Value} (hknown : ∀ kv ∈ record, KnownKey kv.1)
    (hall : Field.all = before ++ field :: after) (hbefore : ∀ f ∈ before, FieldFits record f)
    (hlookup : record.lookup field.key = some v) (hkind : v.kind ≠ field.kind) :
    ofRecord name record = .error (.wrongField name field v.kind) := by
  unfold ofRecord
  rw [unknownKey?_eq_none hknown]
  rcases field_cases hall with ⟨rfl, rfl⟩ | ⟨rfl, rfl⟩ | ⟨rfl, rfl⟩
  · have hdesc := fieldValue_of_lookup "" name Toml.Value.isSome_text?_iff hlookup hkind
    simp only [textField, hdesc]
    rfl
  · have hdesc := fieldValue_of_fits "" name Toml.Value.isSome_text?_iff
      (hbefore .description (by simp))
    have hhint := fieldValue_of_lookup false name Toml.Value.isSome_flag?_iff hlookup hkind
    simp only [textField, flagField, hdesc, hhint]
    rfl
  · have hdesc := fieldValue_of_fits "" name Toml.Value.isSome_text?_iff
      (hbefore .description (by simp))
    have hhint := fieldValue_of_fits false name Toml.Value.isSome_flag?_iff
      (hbefore .typeHintOnly (by simp))
    have hsub := fieldValue_of_lookup false name Toml.Value.isSome_flag?_iff hlookup hkind
    simp only [textField, flagField, hdesc, hhint, hsub]
    rfl

theorem ofValue_of_fault {name : String} {v : Toml.Value} {error : DenylistError}
    (h : ShapeFault name v error) : ofValue name v = .error error := by
  cases h with
  | value hstring htable =>
      cases v with
      | string text => exact absurd rfl hstring
      | table record => exact absurd rfl htable
      | _ => rfl
  | unknown hbefore hkey =>
      show ofRecord name _ = _
      unfold ofRecord
      rw [unknownKey?_append hbefore hkey]
  | field hknown hall hbefore hlookup hkind =>
      exact ofRecord_of_field hknown hall hbefore hlookup hkind

/-! ### The order of fields -/

end Entry

namespace Denylist

open Entry

/-! ### Reading a table -/

/-- The first misshapen entry of a table, after entries that are well shaped, gives the error. -/
def FirstShapeFault (table : Toml.Table) (error : DenylistError) : Prop :=
  ∃ before key v after, table = before ++ (key, v) :: after ∧
    (∀ kv ∈ before, WellShaped kv.2) ∧ ShapeFault key v error

theorem ofValues_of_wellShaped {table : Toml.Table} (h : ∀ kv ∈ table, WellShaped kv.2) :
    ofValues table = .ok (table.map (fun kv => configured kv.1 kv.2)) := by
  unfold ofValues
  induction table with
  | nil => rfl
  | cons kv table ih =>
      obtain ⟨hkv, htable⟩ := List.forall_mem_cons.mp h
      rw [List.mapM_cons, ofValue_of_wellShaped kv.1 hkv, ih htable]
      rfl

theorem ofValues_of_fault {before after : Toml.Table} {key : String} {v : Toml.Value}
    {error : DenylistError} (hbefore : ∀ kv ∈ before, WellShaped kv.2)
    (hfault : ShapeFault key v error) :
    ofValues (before ++ (key, v) :: after) = .error error := by
  unfold ofValues
  induction before with
  | nil =>
      rw [List.nil_append, List.mapM_cons, ofValue_of_fault hfault]
      rfl
  | cons kv before ih =>
      obtain ⟨hkv, hbefore⟩ := List.forall_mem_cons.mp hbefore
      rw [List.cons_append, List.mapM_cons, ofValue_of_wellShaped kv.1 hkv, ih hbefore]
      rfl

theorem ofTable_of_wellShaped {table : Toml.Table} (h : ∀ kv ∈ table, WellShaped kv.2) :
    ofTable table = ofEntries (table.map (fun kv => configured kv.1 kv.2)) := by
  unfold ofTable
  rw [ofValues_of_wellShaped h]
  rfl

theorem ofTable_of_firstShapeFault {table : Toml.Table} {error : DenylistError}
    (h : FirstShapeFault table error) : ofTable table = .error error := by
  obtain ⟨before, key, v, after, rfl, hbefore, hfault⟩ := h
  unfold ofTable
  rw [ofValues_of_fault hbefore hfault]
  rfl

theorem wellShaped_or_firstShapeFault (table : Toml.Table) :
    (∀ kv ∈ table, WellShaped kv.2) ∨ ∃ error, FirstShapeFault table error := by
  rcases forall_or_first_not (fun kv => WellShaped kv.2) table with
    h | ⟨before, ⟨key, v⟩, after, rfl, hbefore, hv⟩
  · exact Or.inl h
  · obtain ⟨error, hfault⟩ := (wellShaped_or_fault key v).resolve_left hv
    exact Or.inr ⟨error, before, key, v, after, rfl, hbefore, hfault⟩

def bareKeys (table : Toml.Table) : List String := table.map (fun kv => TypeName.bare kv.1)

theorem bareNames_configured (table : Toml.Table) :
    bareNames (table.map (fun kv => configured kv.1 kv.2)) = bareKeys table := by
  unfold bareNames bareKeys
  rw [List.map_map]
  apply List.map_congr_left
  intro kv _
  simp [configured_name]

theorem normalize_configured (name : String) (v : Toml.Value) :
    (configured name v).normalize = configured name v := by
  unfold Entry.normalize
  rw [configured_name, TypeName.bare_bare, ← configured_name name v]

theorem exists_ofTable_iff (table : Toml.Table) :
    (∃ d, ofTable table = .ok d) ↔
      (∀ kv ∈ table, WellShaped kv.2) ∧ NamesAccepted (bareKeys table) := by
  rcases wellShaped_or_firstShapeFault table with h | ⟨error, h⟩
  · rw [ofTable_of_wellShaped h, exists_ofEntries_iff, bareNames_configured]
    exact ⟨fun hnames => ⟨h, hnames⟩, fun hnames => hnames.2⟩
  · constructor
    · rintro ⟨d, hd⟩
      rw [ofTable_of_firstShapeFault h] at hd
      cases hd
    · rintro ⟨hshaped, hnames⟩
      obtain ⟨before, key, v, after, rfl, _, hfault⟩ := h
      have hread := ofValue_of_wellShaped key (hshaped (key, v) (by simp))
      rw [ofValue_of_fault hfault] at hread
      cases hread

/-- The entries of the denylist are those of the table, in the order of the table. -/
theorem entries_of_ofTable {table : Toml.Table} {d : Denylist} (h : ofTable table = .ok d) :
    d.entries = table.map (fun kv => configured kv.1 kv.2) := by
  rw [ofTable_of_wellShaped ((exists_ofTable_iff table).mp ⟨d, h⟩).1] at h
  rw [(ofEntries_eq_ok h).2, List.map_map]
  apply List.map_congr_left
  intro kv _
  exact normalize_configured kv.1 kv.2

/-- A shape fault comes before the empty name of an earlier entry, an unknown key before an
ill-typed field. -/
example :
    ofTable [("\\", .string "no name"),
        ("\\B", .table [("description", .integer 1), ("hint", .boolean true)])] =
      .error (.unknownField "\\B" "hint") := by rfl

end Denylist

end TypeAudit
