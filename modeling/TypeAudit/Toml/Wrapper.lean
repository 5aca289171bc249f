import TypeAudit.Toml.Document

/-! # Wrapped dates

A date can also be given as a table: its text under the key `Datetime.wrapperKey`, which comes
before any other key.  `Value.unwrap?` puts the date in the place of every such table within a
value, and fails if the text under the key is no date.  Conversely, where a table is asked for, a
date reads as the table that wraps it (`Value.entries?`). -/

namespace TypeAudit.Toml

/-- The key under which a table holds the text of a date. -/
def Datetime.wrapperKey : String := "$__toml_private_datetime"

/-- The table that wraps a date. -/
def Datetime.wrapped (d : Datetime) : Table := [(wrapperKey, .string d.render)]

/-- The table wraps a date: the key for it comes first. -/
def isWrapper : Table → Bool
  | [] => false
  | (key, _) :: _ => key == Datetime.wrapperKey

/-- The date under the first key of a table.  If it must be `alone`, the table may have no other
key; otherwise the other keys do not matter. -/
def wrappedDate? (alone : Bool) : Table → Option Datetime
  | (_, .string text) :: others =>
    if alone && !others.isEmpty then none else Datetime.ofText? text
  | _ => none

mutual

/-- The value with every wrapped date in the place of its table. -/
def Value.unwrap? (alone : Bool) : Value → Option Value
  | .array elements => (unwrapElements? alone elements).map .array
  | .table entries =>
    if isWrapper entries then (wrappedDate? alone entries).map .datetime
    else (unwrapEntries? alone entries).map .table
  | v => some v

def unwrapElements? (alone : Bool) : List Value → Option (List Value)
  | [] => some []
  | v :: vs =>
    (v.unwrap? alone).bind (fun v => (unwrapElements? alone vs).map (v :: ·))

def unwrapEntries? (alone : Bool) : List (String × Value) → Option (List (String × Value))
  | [] => some []
  | (key, v) :: entries =>
    (v.unwrap? alone).bind (fun v => (unwrapEntries? alone entries).map ((key, v) :: ·))

end

/-- The entries of a value where a table is asked for. -/
def Value.entries? : Value → Option Table
  | .table entries => some entries
  | .datetime d => some d.wrapped
  | _ => none

/-- Read a document and unwrap the dates in its values.  The document itself wraps no date. -/
def readTable? (text : String) : Option Table := (parse? text).bind (unwrapEntries? false)

end TypeAudit.Toml
