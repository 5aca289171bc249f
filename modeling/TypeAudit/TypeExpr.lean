import TypeAudit.TypeName

/-! # Native type expressions

The type written at a parameter, a property or a result.  Its *references* are the names in it
that are not builtin, from left to right and with repetitions; keywords never refer to a class. -/

namespace TypeAudit

/-- A name as it is written, with its source line. -/
structure NameRef where
  text : String
  line : Nat
deriving DecidableEq, Repr

/-- A native type expression. -/
inductive TypeExpr where
  | name (ref : NameRef)
  | keyword (ref : NameRef)
  | nullable (inner : TypeExpr)
  | union (branches : List TypeExpr)
  | intersection (branches : List TypeExpr)
deriving Repr

namespace TypeExpr

mutual

/-- The class names an expression refers to, in order. -/
def references : TypeExpr → List NameRef
  | name ref => if TypeName.isBuiltin ref.text then [] else [ref]
  | keyword _ => []
  | nullable inner => references inner
  | union branches => referencesOfAll branches
  | intersection branches => referencesOfAll branches

def referencesOfAll : List TypeExpr → List NameRef
  | [] => []
  | branch :: rest => references branch ++ referencesOfAll rest

end

end TypeExpr

end TypeAudit
