import TypeAudit.Toml.Value
import TypeAudit.TypeName

/-! # Denylists

A denylist says which types must not be used, in the order of the configuration.  Its entries
have distinct bare names, none of them empty: `push` appends one entry and refuses any other.
Beside the entries stands an index of their positions by name.  A type is looked up by its bare
name, first its position in the index and then the entry there. -/

namespace TypeAudit

/-- The policy for one denied type. -/
structure Entry where
  /-- The type that must not be used. -/
  name : String
  /-- An explanation for the reports, possibly empty. -/
  description : String := ""
  /-- Only type hints are denied; extending, implementing and using the type are allowed. -/
  typeHintOnly : Bool := false
  /-- The subclasses of the type are denied too. -/
  withSubclasses : Bool := false
deriving DecidableEq, Repr

namespace Entry

/-- The entry with its bare name. -/
def normalize (entry : Entry) : Entry := { entry with name := TypeName.bare entry.name }

/-- The entry of a type, both flags off. -/
def named (name description : String) : Entry := { name := TypeName.bare name, description }

/-- The fields of an entry that a configuration can set. -/
inductive Field where
  | description
  | typeHintOnly
  | withSubclasses
deriving DecidableEq, Repr

def Field.key : Field → String
  | description => "description"
  | typeHintOnly => "typeHintOnly"
  | withSubclasses => "withSubclasses"

/-- The kind of value a field takes. -/
def Field.kind : Field → Toml.Kind
  | description => .string
  | typeHintOnly => .boolean
  | withSubclasses => .boolean

end Entry

/-- Why a denylist is refused. -/
inductive DenylistError where
  /-- A name is empty once it is bare. -/
  | emptyName
  /-- Two entries have the same bare name. -/
  | duplicate (name : String)
  /-- The value of an entry is neither a description nor a record. -/
  | wrongValue (name : String) (found : Toml.Kind)
  /-- A field of a record has the wrong kind of value. -/
  | wrongField (name : String) (field : Entry.Field) (found : Toml.Kind)
  /-- A record has a field that no entry has. -/
  | unknownField (name key : String)
deriving DecidableEq, Repr

namespace DenylistError

def message : DenylistError → String
  | emptyName => "forbidden type name must not be empty"
  | duplicate name => "forbidden type `" ++ name ++ "` is configured more than once"
  | wrongValue name found =>
    "forbidden type `" ++ name ++ "`: expected a description string or a table, found "
      ++ found.text
  | wrongField name field found =>
    "forbidden type `" ++ name ++ "`: `" ++ field.key ++ "` must be a " ++ field.kind.text
      ++ ", found " ++ found.text
  | unknownField name key => "forbidden type `" ++ name ++ "`: unknown field `" ++ key ++ "`"

/-- The stable code of the failure. -/
def code : DenylistError → String
  | emptyName => "forbid_lint::types::empty_name"
  | duplicate _ => "forbid_lint::types::duplicate"
  | wrongValue .. => "forbid_lint::types::invalid_value"
  | wrongField .. => "forbid_lint::types::invalid_field"
  | unknownField .. => "forbid_lint::types::unknown_field"

/-- A hint on how to mend the configuration. -/
def help? : DenylistError → Option String
  | duplicate _ => some "`\\Foo` and `Foo` name the same type"
  | unknownField .. =>
    some "supported fields are `description`, `typeHintOnly` and `withSubclasses`"
  | _ => none

end DenylistError

/-- The denied types in configuration order, and the positions of their names. -/
structure Denylist where
  entries : List Entry := []
  index : List (String × Nat) := []
deriving DecidableEq, Repr

namespace Denylist

def empty : Denylist := {}

def size (d : Denylist) : Nat := d.entries.length

def isEmpty (d : Denylist) : Bool := d.entries.isEmpty

/-- Some entry also denies subclasses. -/
def hasSubclassEntries (d : Denylist) : Bool := d.entries.any (·.withSubclasses)

/-- The position the index holds for this very name. -/
def position? (d : Denylist) (name : String) : Option Nat := d.index.lookup name

/-- The entry of a type, however its name is qualified. -/
def get? (d : Denylist) (name : String) : Option Entry :=
  (d.position? (TypeName.bare name)).bind (d.entries[·]?)

/-- Append an entry under its bare name, which must be new and not empty. -/
def push (d : Denylist) (entry : Entry) : Except DenylistError Denylist :=
  let entry := entry.normalize
  if entry.name = "" then .error .emptyName
  else if (d.position? entry.name).isSome then .error (.duplicate entry.name)
  else .ok ⟨d.entries ++ [entry], (entry.name, d.entries.length) :: d.index⟩

/-- The denylist of some entries, in their order. -/
def ofEntries (entries : List Entry) : Except DenylistError Denylist :=
  entries.foldlM push empty

end Denylist

end TypeAudit
