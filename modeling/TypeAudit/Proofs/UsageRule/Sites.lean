import TypeAudit.Proofs.Denylist.Matching
import TypeAudit.UsageRule.Check

/-! # The sites of a node

A *site* is a place of a node where a type is named, with the line to report and the sentence to
begin the report with.  `sitesBy` lists the sites of a node in the order of reporting, without
regard to any denylist, for any way to read the names off a type (`Collector`); `sites` reads off
what is looked up.  Doc tags are those of the answer the resolver gives to the request of the
comment (`memberRequest`, `functionRequest`, `statementRequest`), and of the tags that name one
parameter the first counts.

Checking a node gives one diagnostic for each denied site, in the order of the sites, and none
for the others (`check_reports_sites`). -/

namespace TypeAudit.UsageRule

/-- A place where a type is named. -/
structure Site where
  place : Place
  usage : Usage
  /-- The type as it is named there. -/
  name : String
  line : Nat
  /-- The sentence of a report, without its full stop. -/
  subject : String
deriving DecidableEq, Repr

/-- The report on a denied site. -/
def Site.diagnostic (s : Site) (found : Match) : Diagnostic where
  message := sentences s.subject found.description
  identifier := s.place.identifier
  line := s.line

/-- A way to read names off types: off a native type each with its line, off a doc type alone. -/
structure Collector where
  native : TypeExpr → List NameRef
  doc : DocType → List String

/-- Reads the names that are looked up in a denylist. -/
def Collector.references : Collector := ⟨TypeExpr.references, DocType.references⟩

/-! ### Requests -/

section requests
variable (ctx : Context)

/-- The request for a comment on a member: the declaration stands as the class or the trait. -/
def memberRequest (c : ClassLike) (doc : DocComment) : DocRequest where
  file := ctx.scope.file
  className := if c.kind = .trait then none else some (classLabel c.name)
  traitName := if c.kind = .trait then some (classLabel c.name) else none
  functionName := none
  comment := doc.text

/-- The request for the comment on a function: a function or method with a name stands as the
function, everything else is the scope's. -/
def functionRequest (f : FunctionLike) (doc : DocComment) : DocRequest where
  file := ctx.scope.file
  className := ctx.scope.className
  traitName := ctx.scope.traitName
  functionName := (if f.kind = .function ∨ f.kind = .method then f.name else none)
    <|> ctx.scope.functionName
  comment := doc.text

def statementRequest (doc : DocComment) : DocRequest where
  file := ctx.scope.file
  className := ctx.scope.className
  traitName := ctx.scope.traitName
  functionName := ctx.scope.functionName
  comment := doc.text

end requests

/-! ### Declarations -/

/-- The sites of what a class extends, implements and uses. -/
def structureSites (label : String) (c : ClassLike) : List Site :=
  c.parents.map (fun ref => ⟨.parentClass, .structural, ref.text, ref.line,
      "Class " ++ label ++ " extends forbidden class " ++ ref.text⟩)
    ++ c.interfaces.map (fun ref => ⟨.interface, .structural, ref.text, ref.line,
      "Class " ++ label ++ " implements forbidden interface " ++ ref.text⟩)
    ++ c.traits.map (fun ref => ⟨.usedTrait, .structural, ref.text, ref.line,
      "Class " ++ label ++ " uses forbidden trait " ++ ref.text⟩)

section listing
variable (collector : Collector)

/-- The sites of a declared type, if there is one. -/
def typeSites (place : Place) (subject : String) (type : Option TypeExpr) : List Site :=
  type.toList.flatMap (fun t => (collector.native t).map (fun ref =>
    ⟨place, .typeHint, ref.text, ref.line, subject ++ " has forbidden type " ++ ref.text⟩))

def paramSites (label : String) (p : Param) : List Site :=
  typeSites collector .paramType ("Parameter $" ++ p.name ++ " of " ++ label) p.type

/-! ### Comments -/

/-- The sites of the type of a doc tag on `line`. -/
def tagSites (place : Place) (subject : String) (line : Nat) (type : DocType) : List Site :=
  (collector.doc type).map (fun name =>
    ⟨place, .typeHint, name, line, subject ++ " has forbidden type " ++ name⟩)

/-- The sites of the tag of a parameter: of the tags that name it, the first. -/
def paramTagSites (label : String) (doc : DocComment) (tags : ResolvedDoc) (p : Param) :
    List Site :=
  ((tags.params.filter (·.parameter = p.name)).take 1).flatMap (fun tag =>
    tagSites collector .docParam ("Doc tag @param for parameter $" ++ p.name ++ " of " ++ label)
      (doc.tagLine .param (some p.name)) tag.type)

def resultTagSites (label : String) (doc : DocComment) (tags : ResolvedDoc) : List Site :=
  tags.result.toList.flatMap
    (tagSites collector .docResult ("Doc tag @return of " ++ label) (doc.tagLine .result none))

variable (ctx : Context)

def propertyDocSites (c : ClassLike) (p : Property) : List Site :=
  p.doc.toList.flatMap (fun doc => (ctx.docs (memberRequest ctx c doc)).vars.flatMap (fun tag =>
    tagSites collector .docVar
      ("Doc tag @var for property " ++ propertyLabel (classLabel c.name) p.names)
      (doc.tagLine .var none) tag.type))

/-- The sites of the comment on a function: the tag of each parameter, then that of the result. -/
def functionDocSites (label : String) (f : FunctionLike) : List Site :=
  f.doc.toList.flatMap (fun doc =>
    let tags := ctx.docs (functionRequest ctx f doc)
    f.params.flatMap (paramTagSites collector label doc tags)
      ++ resultTagSites collector label doc tags)

/-! ### Nodes -/

/-- The sites of a class-like declaration. -/
def classSites (c : ClassLike) : List Site :=
  (if c.kind = .proper then c.name.toList.flatMap (structureSites · c) else [])
    ++ c.properties.flatMap (fun p => typeSites collector .propertyType
        ("Property " ++ propertyLabel (classLabel c.name) p.names) p.type)
    ++ c.properties.flatMap (propertyDocSites collector ctx c)

def functionSites (f : FunctionLike) : List Site :=
  let label := functionLabel (ctx.scope.className <|> ctx.scope.traitName) f
  f.params.flatMap (paramSites collector label)
    ++ typeSites collector .resultType ("Return type of " ++ label) f.result
    ++ functionDocSites collector ctx label f

def statementSites (s : Statement) : List Site :=
  (ctx.docs (statementRequest ctx s.doc)).vars.flatMap (fun tag =>
    tagSites collector .docVar (varSubject tag.variableName) (s.doc.tagLine .var none) tag.type)

/-- The sites of a node in the order of reporting, with the names a collector reads. -/
def sitesBy : Node → List Site
  | .classLike c => classSites collector ctx c
  | .functionLike f => functionSites collector ctx f
  | .statement s => statementSites collector ctx s

end listing

/-- The sites of a node whose names are looked up, in the order of reporting. -/
def sites (ctx : Context) (node : Node) : List Site := sitesBy .references ctx node

/-! ### Reporting on sites -/

section reports
variable (types : Denylist) (h : Hierarchy)

/-- The diagnostics for the denied ones among some sites. -/
def findings (ss : List Site) : List Diagnostic :=
  ss.filterMap (fun s => (types.find h s.name s.usage).value.map s.diagnostic)

/-- What looking some sites up adds to an account. -/
def lookups (ss : List Site) : List Event :=
  ss.flatMap (fun s => (types.find h s.name s.usage).events)

/-- The computation gives the diagnostics for the sites and, having comments resolved aside, does
nothing but look them up in their order. -/
structure Reports (t : Traced (List Diagnostic)) (ss : List Site) : Prop where
  value : t.value = findings types h ss
  events : t.events.filter (·.request?.isNone) = lookups types h ss

namespace Reports

variable {types h}

theorem nil : Reports types h (pure []) [] := ⟨rfl, rfl⟩

theorem append {s t : Traced (List Diagnostic)} {ss ts : List Site} (hs : Reports types h s ss)
    (ht : Reports types h t ts) : Reports types h (s ++ t) (ss ++ ts) := by
  constructor
  · rw [Traced.value_append, hs.value, ht.value, findings, findings, findings,
      List.filterMap_append]
  · rw [Traced.events_append, List.filter_append, hs.events, ht.events, lookups, lookups, lookups,
      List.flatMap_append]

theorem gather {α : Type} {f : α → Traced (List Diagnostic)} {ss : α → List Site}
    (hf : ∀ a, Reports types h (f a) (ss a)) (as : List α) :
    Reports types h (Traced.gather f as) (as.flatMap ss) := by
  induction as with
  | nil => exact nil
  | cons a as ih => exact (hf a).append ih

/-- Sites given one by one. -/
theorem gather_map {α : Type} {f : α → Traced (List Diagnostic)} {s : α → Site}
    (hf : ∀ a, Reports types h (f a) [s a]) (as : List α) :
    Reports types h (Traced.gather f as) (as.map s) := by
  rw [List.map_eq_flatMap]
  exact gather hf as

/-- Having a comment resolved first. -/
theorem resolve {ctx : Context} {request : DocRequest}
    {f : ResolvedDoc → Traced (List Diagnostic)} {ss : List Site}
    (hf : Reports types h (f (ctx.docs request)) ss) :
    Reports types h (ctx.resolve request >>= f) ss := by
  constructor
  · exact hf.value
  · rw [Traced.events_bind, List.filter_append]
    exact hf.events

end Reports

/-! ### The parts of a check -/

variable {types h}

theorem reports_judge (place : Place) (subject : String → String) (line : Nat) (name : String) :
    Reports types h (judge types h place subject line name)
      [⟨place, place.usage, name, line, subject name⟩] := by
  have hrequests := Denylist.find_requests h name place.usage types
  unfold Traced.requests at hrequests
  rw [List.filterMap_eq_nil_iff] at hrequests
  have hfilter : (types.find h name place.usage).events.filter (·.request?.isNone) =
      (types.find h name place.usage).events := by
    rw [List.filter_eq_self]
    intro event hevent
    rw [hrequests event hevent]
    rfl
  unfold judge
  cases hfind : (types.find h name place.usage).value with
  | none =>
      constructor
      · simp [findings, hfind]
      · simp [lookups, hfind, hfilter]
  | some found =>
      constructor
      · simp [findings, hfind, Site.diagnostic]
      · simp [lookups, hfind, hfilter]

theorem reports_judgeRefs (place : Place) (subject : String → String) (refs : List NameRef) :
    Reports types h (judgeRefs types h place subject refs)
      (refs.map (fun ref => ⟨place, place.usage, ref.text, ref.line, subject ref.text⟩)) := by
  unfold judgeRefs
  refine Reports.gather_map ?_ refs
  intro ref
  exact reports_judge place subject ref.line ref.text

theorem reports_judgeType {place : Place} (hplace : place.usage = .typeHint) (subject : String)
    (type : Option TypeExpr) :
    Reports types h
      (judgeType types h place (fun t => subject ++ " has forbidden type " ++ t) type)
      (typeSites .references place subject type) := by
  cases type with
  | none => exact Reports.nil
  | some t =>
      unfold typeSites
      rw [Option.toList_some, List.flatMap_singleton, ← hplace]
      exact reports_judgeRefs place _ t.references

theorem reports_judgeDoc {place : Place} (hplace : place.usage = .typeHint) (subject : String)
    (line : Nat) (type : DocType) :
    Reports types h
      (judgeDoc types h place (fun t => subject ++ " has forbidden type " ++ t) line type)
      (tagSites .references place subject line type) := by
  refine Reports.gather_map ?_ type.references
  intro name
  rw [← hplace]
  exact reports_judge place _ line name

theorem reports_varTags (subject : VarTag → String) (line : Nat) (tags : List VarTag) :
    Reports types h
      (Traced.gather (fun tag => judgeDoc types h .docVar
        (fun t => subject tag ++ " has forbidden type " ++ t) line tag.type) tags)
      (tags.flatMap (fun tag => tagSites .references .docVar (subject tag) line tag.type)) := by
  refine Reports.gather ?_ tags
  intro tag
  exact reports_judgeDoc rfl (subject tag) line tag.type

variable (types) (ctx : Context)

theorem reports_checkStructure (c : ClassLike) :
    Reports types ctx.scope.hierarchy (checkStructure types ctx c)
      (if c.kind = .proper then c.name.toList.flatMap (structureSites · c) else []) := by
  unfold checkStructure
  cases hkind : c.kind with
  | proper =>
      cases hname : c.name with
      | none => exact Reports.nil
      | some label =>
          have hsites : (if ClassKind.proper = .proper then
              (some label).toList.flatMap (structureSites · c) else []) =
              structureSites label c := by simp
          rw [hsites]
          exact ((reports_judgeRefs .parentClass _ c.parents).append
            (reports_judgeRefs .interface _ c.interfaces)).append
            (reports_judgeRefs .usedTrait _ c.traits)
  | _ => exact Reports.nil

theorem reports_checkPropertyDoc (c : ClassLike) (p : Property) :
    Reports types ctx.scope.hierarchy (checkPropertyDoc types ctx c.kind (classLabel c.name) p)
      (propertyDocSites .references ctx c p) := by
  unfold checkPropertyDoc propertyDocSites
  cases p.doc with
  | none => exact Reports.nil
  | some doc =>
      rw [Option.toList_some, List.flatMap_singleton]
      dsimp only
      split_ifs with hkind
      · have hrequest : memberRequest ctx c doc =
            ⟨ctx.scope.file, none, some (classLabel c.name), none, doc.text⟩ := by
          simp [memberRequest, hkind]
        rw [hrequest]
        exact Reports.resolve (reports_varTags _ _ _)
      · have hrequest : memberRequest ctx c doc =
            ⟨ctx.scope.file, some (classLabel c.name), none, none, doc.text⟩ := by
          simp [memberRequest, hkind]
        rw [hrequest]
        exact Reports.resolve (reports_varTags _ _ _)

theorem reports_checkClass (c : ClassLike) :
    Reports types ctx.scope.hierarchy (checkClass types ctx c)
      (classSites .references ctx c) := by
  unfold checkClass classSites
  refine ((reports_checkStructure types ctx c).append (Reports.gather ?_ _)).append
    (Reports.gather (reports_checkPropertyDoc types ctx c) _)
  intro p
  exact reports_judgeType rfl _ p.type

theorem resolveDoc_ownName (f : FunctionLike) (doc : DocComment) :
    ctx.resolveDoc none none (ownName f) doc.text = ctx.resolve (functionRequest ctx f doc) := by
  unfold functionRequest Context.resolveDoc ownName
  cases f.kind <;> rfl

theorem reports_checkParamTag (label : String) (doc : DocComment) (tags : ResolvedDoc) (p : Param) :
    Reports types ctx.scope.hierarchy (checkParamTag types ctx label doc tags p)
      (paramTagSites .references label doc tags p) := by
  unfold checkParamTag paramTagSites
  rw [← tags.toList_paramTag?]
  cases tags.paramTag? p.name with
  | none => exact Reports.nil
  | some tag =>
      rw [Option.toList_some, List.flatMap_singleton]
      exact reports_judgeDoc rfl _ _ tag.type

theorem reports_checkResultTag (label : String) (doc : DocComment) (tags : ResolvedDoc) :
    Reports types ctx.scope.hierarchy (checkResultTag types ctx label doc tags)
      (resultTagSites .references label doc tags) := by
  unfold checkResultTag resultTagSites
  cases tags.result with
  | none => exact Reports.nil
  | some type =>
      rw [Option.toList_some, List.flatMap_singleton]
      exact reports_judgeDoc rfl _ _ type

theorem reports_checkFunctionDoc (label : String) (f : FunctionLike) :
    Reports types ctx.scope.hierarchy (checkFunctionDoc types ctx label f)
      (functionDocSites .references ctx label f) := by
  unfold checkFunctionDoc functionDocSites
  cases f.doc with
  | none => exact Reports.nil
  | some doc =>
      dsimp only
      rw [resolveDoc_ownName, Option.toList_some, List.flatMap_singleton]
      exact Reports.resolve ((Reports.gather (reports_checkParamTag types ctx label doc _) _).append
        (reports_checkResultTag types ctx label doc _))

theorem reports_checkFunction (f : FunctionLike) :
    Reports types ctx.scope.hierarchy (checkFunction types ctx f)
      (functionSites .references ctx f) := by
  unfold checkFunction functionSites
  refine ((Reports.gather ?_ _).append (reports_judgeType rfl _ f.result)).append
    (reports_checkFunctionDoc types ctx _ f)
  intro p
  exact reports_judgeType rfl _ p.type

theorem reports_checkStatement (s : Statement) :
    Reports types ctx.scope.hierarchy (checkStatement types ctx s)
      (statementSites .references ctx s) := by
  unfold checkStatement statementSites
  exact Reports.resolve (reports_varTags (fun tag => varSubject tag.variableName) _ _)

end reports

/-! ### Checking a node -/

theorem findings_of_isEmpty {types : Denylist} (h : Hierarchy) (hempty : types.isEmpty = true)
    (ss : List Site) : findings types h ss = [] := by
  have hentries : types.entries = [] := List.isEmpty_iff.mp hempty
  unfold findings
  rw [List.filterMap_eq_nil_iff]
  intro s _
  have hget : types.get? s.name = none := by
    unfold Denylist.get?
    rw [hentries]
    simp
  rw [Denylist.find_value, hget, hentries]
  simp

/-- **A check reports exactly the denied sites**, for every denylist, context and node: it goes
through the sites in their order and gives one diagnostic for each that the denylist denies. -/
theorem check_reports_sites (types : Denylist) (ctx : Context) (node : Node) :
    (check types ctx node).value = (sites ctx node).filterMap (fun s =>
      (types.find ctx.scope.hierarchy s.name s.usage).value.map s.diagnostic) := by
  unfold check
  split_ifs with hempty
  · exact (findings_of_isEmpty ctx.scope.hierarchy hempty _).symm
  · cases node with
    | classLike c => exact (reports_checkClass types ctx c).value
    | functionLike f => exact (reports_checkFunction types ctx f).value
    | statement s => exact (reports_checkStatement types ctx s).value

end TypeAudit.UsageRule
