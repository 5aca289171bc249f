/-! # Diagnostics and reports

A rule returns diagnostics.  An analysis attributes them to the rule and the file, which makes
them violations, and collects them in a report together with the number of nodes it checked.
Reports of consecutive parts of a run are joined by `extend`. -/

namespace TypeAudit

/-- A finding of a rule on one node. -/
structure Diagnostic where
  message : String
  identifier : String
  line : Nat
deriving DecidableEq, Repr

def Diagnostic.render (d : Diagnostic) : String :=
  toString d.line ++ ": [" ++ d.identifier ++ "] " ++ d.message

/-- A diagnostic attributed to a rule and a file. -/
structure Violation where
  rule : String
  file : String
  diagnostic : Diagnostic
deriving DecidableEq, Repr

def Violation.render (v : Violation) : String := v.file ++ ":" ++ v.diagnostic.render

/-- The outcome of an analysis. -/
structure Report where
  violations : List Violation := []
  nodesChecked : Nat := 0
deriving DecidableEq, Repr

namespace Report

/-- The report of a run over nothing. -/
def empty : Report := {}

/-- Something was found. -/
def hasViolations (r : Report) : Bool := !r.violations.isEmpty

def byIdentifier (r : Report) (identifier : String) : List Violation :=
  r.violations.filter (·.diagnostic.identifier = identifier)

/-- The report of a run followed by another. -/
def extend (r s : Report) : Report :=
  ⟨r.violations ++ s.violations, r.nodesChecked + s.nodesChecked⟩

/-- The report for the user: a line for each violation, then a summary. -/
def render (r : Report) : String :=
  String.join (r.violations.map (fun v => v.render ++ "\n"))
    ++ "\nFound " ++ toString r.violations.length ++ " violation(s) in "
    ++ toString r.nodesChecked ++ " node(s)\n"

end Report

end TypeAudit
