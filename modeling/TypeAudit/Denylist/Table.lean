import TypeAudit.Denylist.Basic

/-! # Denylists from configuration tables

A configuration maps each denied type to a description or to a record of the fields of its
entry.  The shape of all entries is checked before any name: the first misshapen entry is the
one reported, under its name as it is written.  In a record a field that no entry has is
reported first; then the fields are checked in the order of `Entry`, whatever their order in
the record. -/

namespace TypeAudit

namespace Entry

/-- The fields in the order in which they are checked. -/
def Field.all : List Field := [.description, .typeHintOnly, .withSubclasses]

/-- The first key of a record that is no field. -/
def unknownKey? (record : Toml.Table) : Option String :=
  (record.map (·.1)).find? (fun key => !(Field.all.map Field.key).contains key)

/-- What a field holds, or the default if it is missing. -/
def fieldValue {α : Type} (read? : Toml.Value → Option α) (default : α) (name : String)
    (record : Toml.Table) (field : Field) : Except DenylistError α :=
  match record.lookup field.key with
  | none => .ok default
  | some value =>
    match read? value with
    | some a => .ok a
    | none => .error (.wrongField name field value.kind)

/-- The text of a field, empty if it is missing. -/
def textField : String → Toml.Table → Field → Except DenylistError String :=
  fieldValue Toml.Value.text? ""

/-- The flag of a field, off if it is missing. -/
def flagField : String → Toml.Table → Field → Except DenylistError Bool :=
  fieldValue Toml.Value.flag? false

def ofRecord (name : String) (record : Toml.Table) : Except DenylistError Entry :=
  match unknownKey? record with
  | some key => .error (.unknownField name key)
  | none => do
    let description ← textField name record .description
    let typeHintOnly ← flagField name record .typeHintOnly
    let withSubclasses ← flagField name record .withSubclasses
    pure { named name description with typeHintOnly, withSubclasses }

/-- The entry a configured value describes. -/
def ofValue (name : String) : Toml.Value → Except DenylistError Entry
  | .string description => .ok (named name description)
  | .table record => ofRecord name record
  | other => .error (.wrongValue name other.kind)

def ofValues (table : Toml.Table) : Except DenylistError (List Entry) :=
  table.mapM (fun kv => ofValue kv.1 kv.2)

end Entry

/-- The denylist a configuration table describes, in the order of the table. -/
def Denylist.ofTable (table : Toml.Table) : Except DenylistError Denylist := do
  let entries ← Entry.ofValues table
  ofEntries entries

end TypeAudit
