import TypeAudit.Toml.Datetime

/-! # TOML values

A value of a configuration text.  Tables keep the order in which their keys were written.
Floats carry nothing but their kind: no option of this library looks inside them. -/

namespace TypeAudit.Toml

/-- A TOML value. -/
inductive Value where
  | string (text : String)
  | integer (n : Int)
  | float
  | boolean (b : Bool)
  | datetime (d : Datetime)
  | array (elements : List Value)
  | table (entries : List (String × Value))
deriving Repr

/-- A table: its entries in order, each key once. -/
abbrev Table := List (String × Value)

/-- The kinds of values. -/
inductive Kind where
  | string
  | integer
  | float
  | boolean
  | datetime
  | array
  | table
deriving DecidableEq, Repr

/-- The kind as it is called in messages. -/
def Kind.text : Kind → String
  | string => "string"
  | integer => "integer"
  | float => "float"
  | boolean => "boolean"
  | datetime => "datetime"
  | array => "array"
  | table => "table"

def Value.kind : Value → Kind
  | string _ => .string
  | integer _ => .integer
  | float => .float
  | boolean _ => .boolean
  | datetime _ => .datetime
  | array _ => .array
  | table _ => .table

def Value.text? : Value → Option String
  | string text => some text
  | _ => none

def Value.flag? : Value → Option Bool
  | boolean b => some b
  | _ => none

theorem Value.isSome_text?_iff (v : Value) : v.text?.isSome = true ↔ v.kind = .string := by
  cases v <;> simp [text?, kind]

theorem Value.isSome_flag?_iff (v : Value) : v.flag?.isSome = true ↔ v.kind = .boolean := by
  cases v <;> simp [flag?, kind]

end TypeAudit.Toml
