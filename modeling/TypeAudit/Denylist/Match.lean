import TypeAudit.Denylist.Basic
import TypeAudit.Hierarchy

/-! # Matching a name against a denylist

An entry for the name itself decides alone: if it denies type hints only and the name is used
structurally, the name is allowed, whatever its ancestors.  Without such an entry the first
entry with subclasses from which the name strictly descends denies it.  Names and entries that
the hierarchy does not know are not compared.

The hierarchy is asked only when its answer can matter, and each question is recorded. -/

namespace TypeAudit

/-- How a name is used. -/
inductive Usage where
  /-- As the type of a parameter, a result, a property or a doc tag. -/
  | typeHint
  /-- To extend a class, implement an interface or use a trait. -/
  | structural
deriving DecidableEq, Repr

/-- The entry applies to names used in this way. -/
def Entry.appliesTo (entry : Entry) (usage : Usage) : Bool :=
  usage = .typeHint || !entry.typeHintOnly

/-- A denied name: by its own entry, or by the entry of an ancestor. -/
inductive Match where
  | exact (entry : Entry)
  | inherited (entry : Entry)
deriving DecidableEq, Repr

namespace Match

def entry : Match → Entry
  | exact entry => entry
  | inherited entry => entry

/-- The denied ancestor, if the name is denied because of one. -/
def ancestor? : Match → Option String
  | exact _ => none
  | inherited entry => some entry.name

/-- The explanation, which names the ancestor if there is one. -/
def description : Match → String
  | exact entry => entry.description
  | inherited entry =>
    let note := "(subclass of " ++ entry.name ++ ")"
    if entry.description = "" then note else entry.description ++ " " ++ note

end Match

namespace Denylist

/-- The first entry that denies `name` because of an ancestor. -/
def firstInherited (h : Hierarchy) (name : String) (usage : Usage) :
    List Entry → Traced (Option Entry)
  | [] => pure none
  | entry :: rest =>
    if entry.withSubclasses && entry.appliesTo usage then do
      if ← h.askHasClass entry.name then
        if ← h.askIsSubclass name entry.name then
          return some entry
      firstInherited h name usage rest
    else firstInherited h name usage rest

/-- Whether a name is denied in a usage, and by which entry. -/
def find (d : Denylist) (h : Hierarchy) (name : String) (usage : Usage) :
    Traced (Option Match) :=
  let name := TypeName.bare name
  match d.get? name with
  | some entry => pure (if entry.appliesTo usage then some (.exact entry) else none)
  | none =>
    if d.hasSubclassEntries then do
      if ← h.askHasClass name then
        match ← firstInherited h name usage d.entries with
        | some entry =>
          Traced.log (.inherited name entry.name)
          return some (.inherited entry)
        | none => return none
      else return none
    else pure none

end Denylist

end TypeAudit
