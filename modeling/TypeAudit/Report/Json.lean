import TypeAudit.Json.Parser
import TypeAudit.Json.Printer
import TypeAudit.Report

/-! # Reports as JSON

A report is saved as a JSON object with its violations and its number of nodes; a violation is
an object with the fields of its diagnostic beside its rule and its file.

A saved report is read back leniently: fields may stand in any order, unknown fields are
skipped, and the report itself may be an array of its two fields.  Each known field must stand
exactly once and have its type.  What is skipped in a violation must still be a value that can
be held: its strings are texts, its numbers are finite, and it is not nested too deeply. -/

namespace TypeAudit

/-- The names of the saved fields. -/
inductive SavedField where
  | violations
  | nodesChecked
  | rule
  | file
  | message
  | identifier
  | line
deriving DecidableEq, Repr

def SavedField.key : SavedField → String
  | violations => "violations"
  | nodesChecked => "nodes_checked"
  | rule => "rule"
  | file => "file"
  | message => "message"
  | identifier => "identifier"
  | line => "line"

namespace Violation

/-- Values inside a violation are nested at most this deep. -/
def depthLimit : Nat := 124

/-- The violation as a JSON object. -/
def toJson (v : Violation) : Json.Value :=
  .object
    [(some SavedField.rule.key, .string (some v.rule)),
     (some SavedField.file.key, .string (some v.file)),
     (some SavedField.message.key, .string (some v.diagnostic.message)),
     (some SavedField.identifier.key, .string (some v.diagnostic.identifier)),
     (some SavedField.line.key, .number (.ofNat v.diagnostic.line))]

/-- The violation that a JSON object describes. -/
def ofJson? : Json.Value → Option Violation
  | .object members =>
    if members.all (fun (key, v) => key.isSome && v.isSound && v.depth ≤ depthLimit) then do
      let rule ← (Json.only? members SavedField.rule.key).bind (·.text?)
      let file ← (Json.only? members SavedField.file.key).bind (·.text?)
      let message ← (Json.only? members SavedField.message.key).bind (·.text?)
      let identifier ← (Json.only? members SavedField.identifier.key).bind (·.text?)
      let line ← (Json.only? members SavedField.line.key).bind (·.nat?)
      pure { rule, file, diagnostic := { message, identifier, line } }
    else none
  | _ => none

end Violation

namespace Report

/-- The report as a JSON object. -/
def toJson (r : Report) : Json.Value :=
  .object
    [(some SavedField.violations.key, .array (r.violations.map Violation.toJson)),
     (some SavedField.nodesChecked.key, .number (.ofNat r.nodesChecked))]

/-- The text of a saved report. -/
def save (r : Report) : String := String.ofList (Json.render r.toJson)

def ofFields? (violations nodesChecked : Json.Value) : Option Report :=
  match violations with
  | .array vs => do
    let violations ← vs.mapM Violation.ofJson?
    let nodesChecked ← nodesChecked.nat?
    pure { violations, nodesChecked }
  | _ => none

/-- The report that a JSON value describes. -/
def ofJson? : Json.Value → Option Report
  | .object members =>
    if members.all (·.1.isSome) then do
      let violations ← Json.only? members SavedField.violations.key
      let nodesChecked ← Json.only? members SavedField.nodesChecked.key
      ofFields? violations nodesChecked
    else none
  | .array [violations, nodesChecked] => ofFields? violations nodesChecked
  | _ => none

/-- Read a saved report. -/
def load? (text : String) : Option Report := (Json.parse? text.toList).bind ofJson?

end Report

end TypeAudit
