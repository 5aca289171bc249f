import TypeAudit.TypeName

/-! # Resolved doc types

A doc tag's type after the host has resolved its names.  Its *classes* are the classes whose
objects (or whose names) the type denotes: the arguments of a generic type and the elements of
an array are not among them.  Its *references* are the classes that are not builtin.

`ResolvedDoc` holds the tags of one comment.  A parameter's tag is the first with its name. -/

namespace TypeAudit

/-- A type as the host resolved it from a doc tag. -/
inductive DocType where
  | object (className : String)
  | classString (className : String)
  | generic (className : String) (arguments : List DocType)
  | union (branches : List DocType)
  | intersection (branches : List DocType)
  | array (element : DocType)
  | keyword (word : String)
deriving Repr

namespace DocType

mutual

/-- The class names a type denotes, in order. -/
def classes : DocType → List String
  | object className => [className]
  | classString className => [className]
  | generic className _ => [className]
  | union branches => classesOfAll branches
  | intersection branches => classesOfAll branches
  | array _ => []
  | keyword _ => []

def classesOfAll : List DocType → List String
  | [] => []
  | branch :: rest => classes branch ++ classesOfAll rest

end

/-- The class names a type refers to, in order. -/
def references (type : DocType) : List String :=
  type.classes.filter (fun name => !TypeName.isBuiltin name)

end DocType

/-- A resolved `@var` tag, with the variable it names, if any. -/
structure VarTag where
  variableName : Option String
  type : DocType
deriving Repr

/-- A resolved `@param` tag. -/
structure ParamTag where
  parameter : String
  type : DocType
deriving Repr

/-- The resolved tags of one comment, in source order. -/
structure ResolvedDoc where
  vars : List VarTag := []
  params : List ParamTag := []
  result : Option DocType := none
deriving Repr

namespace ResolvedDoc

/-- The tag of a parameter: the first that names it. -/
def paramTag? (doc : ResolvedDoc) (parameter : String) : Option ParamTag :=
  doc.params.find? (·.parameter = parameter)

/-- The tag of a parameter names it, and no tag before it does. -/
theorem paramTag?_eq_some_iff {doc : ResolvedDoc} {parameter : String} {tag : ParamTag} :
    doc.paramTag? parameter = some tag ↔ tag.parameter = parameter ∧
      ∃ before after, doc.params = before ++ tag :: after ∧
        ∀ earlier ∈ before, earlier.parameter ≠ parameter := by
  unfold paramTag?
  rw [List.find?_eq_some_iff_append]
  simp only [decide_eq_true_eq, Bool.not_eq_eq_eq_not, Bool.not_true, decide_eq_false_iff_not]

theorem toList_paramTag? (doc : ResolvedDoc) (parameter : String) :
    (doc.paramTag? parameter).toList = (doc.params.filter (·.parameter = parameter)).take 1 := by
  unfold paramTag?
  rw [← List.head?_filter, List.take_one]

def isEmpty (doc : ResolvedDoc) : Bool :=
  doc.vars.isEmpty && doc.params.isEmpty && doc.result.isNone

end ResolvedDoc

end TypeAudit
