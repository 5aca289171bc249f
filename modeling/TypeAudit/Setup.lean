import TypeAudit.Analyzer
import TypeAudit.Denylist.Table
import TypeAudit.UsageRule.Check

/-! # Setting up an analyzer

The built-in rules are set up from a configuration, which is read from a file.  The denylist of
the rule against denied types is the option `types` of its section; without it nothing is
denied.  A malformed denylist is an error even if the rule is switched off.

Files are seen through a `Directory`: a file that is not there, the directory itself and bytes
that are no UTF-8 text cannot be read as a configuration. -/

namespace TypeAudit

/-- Why a file cannot be read. -/
inductive ReadError where
  | notFound
  | isDirectory
  | notText
deriving DecidableEq, Repr

def ReadError.message : ReadError → String
  | notFound => "No such file or directory (os error 2)"
  | isDirectory => "Is a directory (os error 21)"
  | notText => "stream did not contain valid UTF-8"

/-- A directory of files by their paths. -/
structure Directory where
  files : List (String × ByteArray) := []

namespace Directory

/-- The path of the directory itself. -/
def selfPath : String := "."

def readText (dir : Directory) (path : String) : Except ReadError String :=
  match dir.files.lookup path with
  | some bytes =>
    match String.fromUTF8? bytes with
    | some text => .ok text
    | none => .error .notText
  | none => if path = selfPath then .error .isDirectory else .error .notFound

end Directory

/-- Why no analyzer can be set up. -/
inductive SetupError where
  /-- The configuration file cannot be read. -/
  | unreadable (path : String) (reason : ReadError)
  /-- The configuration text is malformed. -/
  | malformed
  /-- An option that must be a table is something else. -/
  | notATable (rule key : String)
  /-- The denylist is refused. -/
  | denylist (reason : DenylistError)
deriving DecidableEq, Repr

namespace SetupError

/-- The message for the user. -/
def message : SetupError → String
  | unreadable path reason => "Failed to read config file " ++ path ++ ": " ++ reason.message
  | malformed => "Failed to parse config"
  | notATable rule key => "rules." ++ rule ++ "." ++ key ++ " must be a table"
  | denylist reason => reason.message

/-- The stable code of the failure, if it has one. -/
def code? : SetupError → Option String
  | notATable .. => some "forbid_lint::setup::not_a_table"
  | denylist reason => some reason.code
  | _ => none

/-- A hint on how to mend the configuration. -/
def help? : SetupError → Option String
  | denylist reason => reason.help?
  | _ => none

end SetupError

namespace Setup

/-- The option that holds the denylist. -/
def typesKey : String := "types"

/-- The denylist in a configuration. -/
def denylist (config : Config) : Except SetupError Denylist :=
  match (config.section? UsageRule.name).bind (·.option? typesKey) with
  | none => .ok Denylist.empty
  | some (.table table) => (Denylist.ofTable table).mapError .denylist
  | some _ => .error (.notATable UsageRule.name typesKey)

/-- The built-in rules for a configuration. -/
def rules (config : Config) : Traced (Except SetupError (List Rule)) :=
  match denylist config with
  | .error e => pure (.error e)
  | .ok types => do
    let rule ← UsageRule.ofDenylist types
    pure (.ok [rule])

/-- An analyzer with the built-in rules. -/
def analyzer (config : Config) : Traced (Except SetupError Analyzer) := do
  match ← rules config with
  | .error e => pure (.error e)
  | .ok rules => pure (.ok { rules, config })

def readConfig (dir : Directory) (path : String) : Except SetupError Config :=
  match dir.readText path with
  | .error reason => .error (.unreadable path reason)
  | .ok text =>
    match Config.parse? text with
    | none => .error .malformed
    | some config => .ok config

/-- An analyzer for the configuration in a file. -/
def load (dir : Directory) (path : String) : Traced (Except SetupError Analyzer) :=
  match readConfig dir path with
  | .error e => pure (.error e)
  | .ok config => do
    match ← analyzer config with
    | .error e => pure (.error e)
    | .ok a =>
      Traced.log (.loaded a.ruleCount path)
      pure (.ok a)

end Setup

end TypeAudit
