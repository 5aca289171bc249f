import TypeAudit.Toml.Wrapper

/-! # Configuration

A configuration has a section for each rule, under `rules`.  A section can switch its rule off
with `enabled`; everything else in it is an option of the rule.  Dates in options may be wrapped,
each alone in its table.  Other keys at the top of the text are ignored. -/

namespace TypeAudit

/-- The section of one rule. -/
structure Section where
  enabled : Option Bool := none
  options : Toml.Table := []
deriving Repr

/-- The sections by the names of their rules. -/
structure Config where
  sections : List (String × Section) := []
deriving Repr

namespace Section

/-- The key that switches a rule on or off. -/
def enabledKey : String := "enabled"

/-- The section with the given entries: a boolean switch and options. -/
def ofEntries? (entries : Toml.Table) : Option Section := do
  let enabled ←
    match entries.lookup enabledKey with
    | none => some none
    | some (.boolean b) => some (some b)
    | some _ => none
  let options ← Toml.unwrapEntries? true (entries.filter (fun entry => !(entry.1 == enabledKey)))
  pure { enabled, options }

/-- The section written as a value, which must read as a table. -/
def ofValue? (value : Toml.Value) : Option Section := value.entries?.bind ofEntries?

def option? (s : Section) (key : String) : Option Toml.Value := s.options.lookup key

end Section

namespace Config

/-- The configuration without sections. -/
def empty : Config := {}

/-- The sections under a value, which must read as a table of sections. -/
def sectionsOf? (value : Toml.Value) : Option (List (String × Section)) :=
  value.entries?.bind (fun entries =>
    entries.mapM (fun (name, value) => (Section.ofValue? value).map (fun s => (name, s))))

/-- The configuration in a document. -/
def ofTable? (document : Toml.Table) : Option Config :=
  match document.lookup "rules" with
  | none => some {}
  | some rules => (sectionsOf? rules).map (fun sections => { sections })

/-- Read a configuration text; `none` if it is no TOML document or has the wrong shape. -/
def parse? (text : String) : Option Config := (Toml.parse? text).bind ofTable?

def section? (config : Config) (rule : String) : Option Section := config.sections.lookup rule

/-- A rule runs unless its section switches it off. -/
def isEnabled (config : Config) (rule : String) : Bool :=
  match config.section? rule with
  | none => true
  | some s => s.enabled.getD true

end Config

end TypeAudit
