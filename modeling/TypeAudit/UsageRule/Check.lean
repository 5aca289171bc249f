import TypeAudit.Scope
import TypeAudit.UsageRule.Message

/-! # The rule against denied types

The rule looks at every place of a node where a type is named and reports the denied ones, in
the order of the source parts: declared types first, doc tags after them.

* A class-like declaration: if it is a named class, the classes it extends, the interfaces it
  implements and the traits it uses; then the types of its properties; then the `@var` tags of
  the comments on its properties.
* A function-like declaration: the types of its parameters and of its result; then the `@param`
  tag of each parameter and the `@return` tag.
* A statement: its `@var` tags.

With an empty denylist nothing is looked at. -/

namespace TypeAudit.UsageRule

/-- The name of the rule, which is also the name of its configuration section. -/
def name : String := "forbidden-type-usage"

/-- The diagnostic for a name in a place, if it is denied there. -/
def judge (types : Denylist) (h : Hierarchy) (place : Place) (subject : String → String)
    (line : Nat) (name : String) : Traced (List Diagnostic) := do
  match ← types.find h name place.usage with
  | none => pure []
  | some found =>
    pure [{ message := sentences (subject name) found.description
            identifier := place.identifier
            line }]

/-- The diagnostics for names that stand on lines of their own. -/
def judgeRefs (types : Denylist) (h : Hierarchy) (place : Place) (subject : String → String)
    (refs : List NameRef) : Traced (List Diagnostic) :=
  Traced.gather (fun ref => judge types h place subject ref.line ref.text) refs

/-- The diagnostics for a declared type, if there is one. -/
def judgeType (types : Denylist) (h : Hierarchy) (place : Place) (subject : String → String) :
    Option TypeExpr → Traced (List Diagnostic)
  | none => pure []
  | some type => judgeRefs types h place subject type.references

/-- The diagnostics for the type of a doc tag that stands on `line`. -/
def judgeDoc (types : Denylist) (h : Hierarchy) (place : Place) (subject : String → String)
    (line : Nat) (type : DocType) : Traced (List Diagnostic) :=
  Traced.gather (judge types h place subject line) type.references

variable (types : Denylist) (ctx : Context)

/-- What a named class extends, implements and uses. -/
def checkStructure (c : ClassLike) : Traced (List Diagnostic) :=
  let h := ctx.scope.hierarchy
  match c.kind, c.name with
  | .proper, some label =>
    judgeRefs types h .parentClass
        (fun t => "Class " ++ label ++ " extends forbidden class " ++ t) c.parents
      ++ judgeRefs types h .interface
        (fun t => "Class " ++ label ++ " implements forbidden interface " ++ t) c.interfaces
      ++ judgeRefs types h .usedTrait
        (fun t => "Class " ++ label ++ " uses forbidden trait " ++ t) c.traits
  | _, _ => pure []

def checkPropertyType (label : String) (p : Property) : Traced (List Diagnostic) :=
  judgeType types ctx.scope.hierarchy .propertyType
    (fun t => "Property " ++ propertyLabel label p.names ++ " has forbidden type " ++ t) p.type

/-- The `@var` tags of the comment on a property of a class-like declaration. -/
def checkPropertyDoc (kind : ClassKind) (label : String) (p : Property) :
    Traced (List Diagnostic) :=
  match p.doc with
  | none => pure []
  | some doc => do
    let resolved ←
      if kind = .trait then ctx.resolveMemberDoc none (some label) doc.text
      else ctx.resolveMemberDoc (some label) none doc.text
    let subject := fun t =>
      "Doc tag @var for property " ++ propertyLabel label p.names ++ " has forbidden type " ++ t
    Traced.gather
      (fun tag => judgeDoc types ctx.scope.hierarchy .docVar subject (doc.tagLine .var none)
        tag.type)
      resolved.vars

/-- Every place in a class-like declaration. -/
def checkClass (c : ClassLike) : Traced (List Diagnostic) :=
  let label := classLabel c.name
  checkStructure types ctx c
    ++ Traced.gather (checkPropertyType types ctx label) c.properties
    ++ Traced.gather (checkPropertyDoc types ctx c.kind label) c.properties

def checkParamType (label : String) (p : Param) : Traced (List Diagnostic) :=
  judgeType types ctx.scope.hierarchy .paramType
    (fun t => "Parameter $" ++ p.name ++ " of " ++ label ++ " has forbidden type " ++ t) p.type

def checkResultType (label : String) (result : Option TypeExpr) : Traced (List Diagnostic) :=
  judgeType types ctx.scope.hierarchy .resultType
    (fun t => "Return type of " ++ label ++ " has forbidden type " ++ t) result

def checkParamTag (label : String) (doc : DocComment) (resolved : ResolvedDoc) (p : Param) :
    Traced (List Diagnostic) :=
  match resolved.paramTag? p.name with
  | none => pure []
  | some tag =>
    judgeDoc types ctx.scope.hierarchy .docParam
      (fun t => "Doc tag @param for parameter $" ++ p.name ++ " of " ++ label
        ++ " has forbidden type " ++ t)
      (doc.tagLine .param (some p.name)) tag.type

def checkResultTag (label : String) (doc : DocComment) (resolved : ResolvedDoc) :
    Traced (List Diagnostic) :=
  match resolved.result with
  | none => pure []
  | some type =>
    judgeDoc types ctx.scope.hierarchy .docResult
      (fun t => "Doc tag @return of " ++ label ++ " has forbidden type " ++ t)
      (doc.tagLine .result none) type

/-- The name a function gives to its own comment: closures have none. -/
def ownName (f : FunctionLike) : Option String :=
  match f.kind with
  | .function => f.name
  | .method => f.name
  | .closure => none
  | .arrow => none

/-- The comment on a function-like declaration. -/
def checkFunctionDoc (label : String) (f : FunctionLike) : Traced (List Diagnostic) :=
  match f.doc with
  | none => pure []
  | some doc => do
    let resolved ← ctx.resolveDoc none none (ownName f) doc.text
    Traced.gather (checkParamTag types ctx label doc resolved) f.params
      ++ checkResultTag types ctx label doc resolved

/-- Every place in a function-like declaration. -/
def checkFunction (f : FunctionLike) : Traced (List Diagnostic) :=
  let label := functionLabel (ctx.scope.className <|> ctx.scope.traitName) f
  Traced.gather (checkParamType types ctx label) f.params
    ++ checkResultType types ctx label f.result
    ++ checkFunctionDoc types ctx label f

/-- The subject of a message about a `@var` tag on a statement. -/
def varSubject : Option String → String
  | some name => "Doc tag @var for variable $" ++ name
  | none => "Doc tag @var"

def checkStatement (s : Statement) : Traced (List Diagnostic) := do
  let resolved ← ctx.resolveDoc none none none s.doc.text
  Traced.gather
    (fun tag => judgeDoc types ctx.scope.hierarchy .docVar
      (fun t => varSubject tag.variableName ++ " has forbidden type " ++ t)
      (s.doc.tagLine .var none) tag.type)
    resolved.vars

/-- The diagnostics of a node. -/
def check (node : Node) : Traced (List Diagnostic) :=
  if types.isEmpty then pure []
  else
    match node with
    | .classLike c => checkClass types ctx c
    | .functionLike f => checkFunction types ctx f
    | .statement s => checkStatement types ctx s

end TypeAudit.UsageRule

namespace TypeAudit

/-- The rule for a denylist. -/
def UsageRule.rule (types : Denylist) : Rule where
  name := UsageRule.name
  description := "Forbids references to configured types"
  kinds := [.classLike, .functionLike, .statement]
  check := UsageRule.check types

/-- The rule for a denylist, with a log entry on its size. -/
def UsageRule.ofDenylist (types : Denylist) : Traced Rule := do
  Traced.log (.configured UsageRule.name types.size)
  pure (UsageRule.rule types)

end TypeAudit
