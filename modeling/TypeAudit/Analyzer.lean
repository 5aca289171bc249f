import TypeAudit.Config
import TypeAudit.Scope

/-! # Analyzers

An analyzer runs its enabled rules, in order, over the nodes it is shown.  A rule sees only the
nodes of the kinds it subscribes to; `nodeKinds` tells the host which kinds anyone listens to.
A disabled rule is passed over with a log entry each time the rules are gone through. -/

namespace TypeAudit

/-- A node together with its context. -/
structure Visit where
  context : Context
  node : Node

/-- Rules and the configuration that switches them. -/
structure Analyzer where
  rules : List Rule
  config : Config := {}

namespace Analyzer

def ruleCount (a : Analyzer) : Nat := a.rules.length

/-- Run `f` on an enabled rule; a disabled one contributes nothing. -/
def ifEnabled {α : Type} (config : Config) (f : Rule → Traced (List α)) (rule : Rule) :
    Traced (List α) :=
  if config.isEnabled rule.name then f rule
  else do
    Traced.log (.skipped rule.name)
    pure []

/-- The kinds some enabled rule subscribes to, in the order of first subscription. -/
def nodeKinds (a : Analyzer) : Traced (List NodeKind) := do
  let kinds ← Traced.gather (ifEnabled a.config (fun rule => pure rule.kinds)) a.rules
  pure kinds.eraseDups

/-- The violations a rule finds in a node. -/
def runRule (visit : Visit) (rule : Rule) : Traced (List Violation) :=
  let file := visit.context.scope.file
  if rule.kinds.contains visit.node.kind then do
    let diagnostics ← rule.check visit.context visit.node
    if !diagnostics.isEmpty then
      Traced.log (.reported rule.name diagnostics.length file)
    pure (diagnostics.map (fun d => { rule := rule.name, file, diagnostic := d }))
  else pure []

/-- The violations in one node, rule by rule. -/
def checkNode (a : Analyzer) (visit : Visit) : Traced (List Violation) :=
  Traced.gather (ifEnabled a.config (runRule visit)) a.rules

/-- The report on a stream of nodes. -/
def analyze (a : Analyzer) (visits : List Visit) : Traced Report := do
  Traced.log (.started a.ruleCount)
  let violations ← Traced.gather a.checkNode visits
  let report : Report := { violations, nodesChecked := visits.length }
  Traced.log (.completed report.violations.length report.nodesChecked)
  pure report

end Analyzer

end TypeAudit
