import TypeAudit.Proofs.UsageRule.Queries

/-! # Declared types and their doc tags

A type that is declared natively can be repeated in a doc tag.  `DocType.ofNative` is the doc type
that says the same as a native expression, and it refers to the same names in the same order
(`references_ofNative`): one collector leaves out the builtin names where it meets them, the other
after it has gone through the whole type.

So a parameter whose tag repeats its type is reported twice with the same content: the reports on
the declaration and those on the tag tell the same denied names (`Denial`), each with the same
explanation and in the same order.  The same holds of a result and its tag
(`native_and_doc_agree`).

Which reports of a check are about which parameter is read off the check itself: the reports in a
place are those on the sites of that place (`reported_eq`), and in the two places of parameters they
go parameter by parameter (`reported_between`), so parameters of one name are told apart. -/

namespace TypeAudit

namespace DocType

mutual

/-- The doc type that repeats a native type; a type that may be null is a union with `null`. -/
def ofNative : TypeExpr → DocType
  | .name ref => .object ref.text
  | .keyword ref => .keyword ref.text
  | .nullable inner => .union [ofNative inner, .keyword "null"]
  | .union branches => .union (ofNativeAll branches)
  | .intersection branches => .intersection (ofNativeAll branches)

def ofNativeAll : List TypeExpr → List DocType
  | [] => []
  | branch :: rest => ofNative branch :: ofNativeAll rest

end

theorem references_union (branches : List DocType) :
    (union branches).references =
      (classesOfAll branches).filter (fun name => !TypeName.isBuiltin name) := by
  rw [references, classes]

theorem references_intersection (branches : List DocType) :
    (intersection branches).references =
      (classesOfAll branches).filter (fun name => !TypeName.isBuiltin name) := by
  rw [references, classes]

mutual

/-- A type and its repetition in a doc tag refer to the same names. -/
theorem references_ofNative (t : TypeExpr) :
    (ofNative t).references = t.references.map (·.text) := by
  cases t with
  | name ref =>
      rw [ofNative, references, classes, TypeExpr.references]
      cases hbuiltin : TypeName.isBuiltin ref.text <;> simp [hbuiltin]
  | keyword ref =>
      rw [ofNative, references, classes, TypeExpr.references]
      rfl
  | nullable inner =>
      rw [ofNative, references_union, TypeExpr.references, ← references_ofNative inner]
      simp [classesOfAll, classes, references]
  | union branches =>
      rw [ofNative, references_union, TypeExpr.references]
      exact references_ofNativeAll branches
  | intersection branches =>
      rw [ofNative, references_intersection, TypeExpr.references]
      exact references_ofNativeAll branches

theorem references_ofNativeAll (branches : List TypeExpr) :
    (classesOfAll (ofNativeAll branches)).filter (fun name => !TypeName.isBuiltin name) =
      (TypeExpr.referencesOfAll branches).map (·.text) := by
  cases branches with
  | nil =>
      rw [ofNativeAll, classesOfAll, TypeExpr.referencesOfAll]
      rfl
  | cons branch rest =>
      rw [ofNativeAll, classesOfAll, TypeExpr.referencesOfAll, List.filter_append, List.map_append,
        references_ofNativeAll rest, ← references_ofNative branch, references]

end

end DocType

namespace UsageRule

/-! ### The reports in a place -/

/-- What a check of a node reports in a place. -/
def reported (types : Denylist) (ctx : Context) (node : Node) (place : Place) : List Diagnostic :=
  (check types ctx node).value.filter (·.identifier = place.identifier)

theorem Place.identifier_inj {p q : Place} : p.identifier = q.identifier ↔ p = q := by
  cases p <;> cases q <;> simp [identifier]

section findings
variable (types : Denylist) (h : Hierarchy)

theorem findings_append (ss ts : List Site) :
    findings types h (ss ++ ts) = findings types h ss ++ findings types h ts :=
  List.filterMap_append

theorem findings_filter (place : Place) (ss : List Site) :
    (findings types h ss).filter (·.identifier = place.identifier) =
      findings types h (ss.filter (·.place = place)) := by
  unfold findings
  rw [List.filter_filterMap, List.filterMap_filter]
  congr 1
  funext s
  cases (types.find h s.name s.usage).value with
  | none => simp
  | some found =>
      by_cases hplace : s.place = place <;>
        simp [Site.diagnostic, Place.identifier_inj, Option.filter, hplace]

end findings

theorem reported_eq (types : Denylist) (ctx : Context) (node : Node) (place : Place) :
    reported types ctx node place =
      findings types ctx.scope.hierarchy ((sites ctx node).filter (·.place = place)) := by
  unfold reported
  rw [(reports_check types ctx node).value, findings_filter]

/-- All sites are in one place. -/
def AllAt (place : Place) (ss : List Site) : Prop := ∀ s ∈ ss, s.place = place

namespace AllAt

theorem filter {place : Place} {ss : List Site} (h : AllAt place ss) (place' : Place) :
    ss.filter (·.place = place') = if place = place' then ss else [] := by
  split_ifs with hplace
  · rw [List.filter_eq_self]
    intro s hs
    exact decide_eq_true ((h s hs).trans hplace)
  · rw [List.filter_eq_nil_iff]
    intro s hs
    rw [h s hs]
    simpa using hplace

theorem flatMap {α : Type} {place : Place} {ss : α → List Site} (h : ∀ a, AllAt place (ss a))
    (as : List α) : AllAt place (as.flatMap ss) := by
  intro s hs
  obtain ⟨a, _, hs⟩ := List.mem_flatMap.mp hs
  exact h a s hs

theorem typeSites (place : Place) (subject : String) (type : Option TypeExpr) :
    AllAt place (typeSites .references place subject type) := by
  refine flatMap ?_ _
  intro t s hs
  obtain ⟨ref, _, rfl⟩ := List.mem_map.mp hs
  rfl

theorem tagSites (place : Place) (subject : String) (line : Nat) (type : DocType) :
    AllAt place (tagSites .references place subject line type) := by
  intro s hs
  obtain ⟨name, _, rfl⟩ := List.mem_map.mp hs
  rfl

end AllAt

/-! ### What the reports tell -/

/-- A denied name with the explanation of the denial. -/
structure Denial where
  name : String
  description : String
deriving DecidableEq, Repr

/-- The message about a denied name in the type of `subject`. -/
def Denial.message (subject : String) (d : Denial) : String :=
  sentences (subject ++ " has forbidden type " ++ d.name) d.description

section denials
variable (types : Denylist) (h : Hierarchy)

/-- The denied ones among some names in type hints, in order and with repetitions. -/
def denials (names : List String) : List Denial :=
  names.filterMap (fun name => (types.find h name .typeHint).value.map (fun found =>
    ⟨name, found.description⟩))

/-- Reports on type hints about one subject tell the denied names, each with its explanation. -/
theorem messages_findings {α : Type} (site : α → Site) (subject : String)
    (husage : ∀ a, (site a).usage = .typeHint)
    (hsubject : ∀ a, (site a).subject = subject ++ " has forbidden type " ++ (site a).name)
    (as : List α) :
    (findings types h (as.map site)).map (·.message) =
      (denials types h (as.map (fun a => (site a).name))).map (Denial.message subject) := by
  unfold findings denials
  rw [List.filterMap_map, List.filterMap_map, List.map_filterMap, List.map_filterMap]
  congr 1
  funext a
  simp only [Function.comp_apply, husage]
  cases (types.find h (site a).name .typeHint).value with
  | none => rfl
  | some found => simp [Site.diagnostic, Denial.message, hsubject]

theorem messages_typeSites (place : Place) (subject : String) (t : TypeExpr) :
    (findings types h (typeSites .references place subject (some t))).map (·.message) =
      (denials types h (t.references.map (·.text))).map (Denial.message subject) := by
  unfold typeSites
  rw [Option.toList_some, List.flatMap_singleton]
  exact messages_findings types h _ subject (fun _ => rfl) (fun _ => rfl) t.references

theorem messages_tagSites (place : Place) (subject : String) (line : Nat) (type : DocType) :
    (findings types h (tagSites .references place subject line type)).map (·.message) =
      (denials types h type.references).map (Denial.message subject) := by
  unfold tagSites
  rw [messages_findings types h _ subject (fun _ => rfl) (fun _ => rfl), List.map_id']
  rfl

end denials

/-! ### The reports on a function -/

section function
variable (types : Denylist) (ctx : Context)

def labelOf (f : FunctionLike) : String :=
  functionLabel (ctx.scope.className <|> ctx.scope.traitName) f

/-- What the comment on a function resolves to. -/
def tagsOf (f : FunctionLike) (doc : DocComment) : ResolvedDoc :=
  ctx.docs (functionRequest ctx f doc)

variable {f : FunctionLike} {doc : DocComment}

theorem functionSites_of_doc (hdoc : f.doc = some doc) :
    functionSites .references ctx f =
      f.params.flatMap (paramSites .references (labelOf ctx f))
        ++ typeSites .references .resultType ("Return type of " ++ labelOf ctx f) f.result
        ++ (f.params.flatMap (paramTagSites .references (labelOf ctx f) doc (tagsOf ctx f doc))
          ++ resultTagSites .references (labelOf ctx f) doc (tagsOf ctx f doc)) := by
  unfold functionSites functionDocSites
  dsimp only
  rw [hdoc, Option.toList_some, List.flatMap_singleton]
  rfl

/-- The sites of a function in a place: of the four parts, the one of that place. -/
theorem filter_functionSites (hdoc : f.doc = some doc) (place : Place) :
    (functionSites .references ctx f).filter (·.place = place) =
      (if .paramType = place then f.params.flatMap (paramSites .references (labelOf ctx f)) else [])
        ++ (if .resultType = place then
            typeSites .references .resultType ("Return type of " ++ labelOf ctx f) f.result else [])
        ++ ((if .docParam = place then
              f.params.flatMap (paramTagSites .references (labelOf ctx f) doc (tagsOf ctx f doc))
              else [])
          ++ if .docResult = place then
              resultTagSites .references (labelOf ctx f) doc (tagsOf ctx f doc) else []) := by
  have hparams : AllAt .paramType (f.params.flatMap (paramSites .references (labelOf ctx f))) :=
    AllAt.flatMap (fun p => AllAt.typeSites _ _ p.type) f.params
  have hresult := AllAt.typeSites .resultType ("Return type of " ++ labelOf ctx f) f.result
  have hparamTags : AllAt .docParam
      (f.params.flatMap (paramTagSites .references (labelOf ctx f) doc (tagsOf ctx f doc))) :=
    AllAt.flatMap (fun p => AllAt.flatMap (fun _ => AllAt.tagSites _ _ _ _) _) f.params
  have hresultTag : AllAt .docResult
      (resultTagSites .references (labelOf ctx f) doc (tagsOf ctx f doc)) :=
    AllAt.flatMap (fun type => AllAt.tagSites _ _ _ type) _
  rw [functionSites_of_doc ctx hdoc, List.filter_append, List.filter_append, List.filter_append,
    hparams.filter, hresult.filter, hparamTags.filter, hresultTag.filter]

section parts
variable (hdoc : f.doc = some doc)
include hdoc

theorem functionSites_paramType (params : List Param) :
    (functionSites .references ctx { f with params }).filter (·.place = .paramType) =
      params.flatMap (paramSites .references (labelOf ctx f)) := by
  rw [filter_functionSites ctx (f := { f with params }) hdoc]
  simp only [if_true, reduceCtorEq, if_false, List.append_nil]
  rfl

theorem functionSites_docParam (params : List Param) :
    (functionSites .references ctx { f with params }).filter (·.place = .docParam) =
      params.flatMap (paramTagSites .references (labelOf ctx f) doc (tagsOf ctx f doc)) := by
  rw [filter_functionSites ctx (f := { f with params }) hdoc]
  simp only [if_true, reduceCtorEq, if_false, List.append_nil, List.nil_append]
  rfl

theorem functionSites_resultType :
    (functionSites .references ctx f).filter (·.place = .resultType) =
      typeSites .references .resultType ("Return type of " ++ labelOf ctx f) f.result := by
  rw [filter_functionSites ctx hdoc]
  simp only [if_true, reduceCtorEq, if_false, List.append_nil, List.nil_append]

theorem functionSites_docResult :
    (functionSites .references ctx f).filter (·.place = .docResult) =
      resultTagSites .references (labelOf ctx f) doc (tagsOf ctx f doc) := by
  rw [filter_functionSites ctx hdoc]
  simp only [if_true, reduceCtorEq, if_false, List.nil_append]

end parts

/-- In a place whose sites go parameter by parameter, the reports on one parameter stand between
those on the parameters before it and after it. -/
theorem reported_between {place : Place} {ss : Param → List Site}
    (hsites : ∀ params, (functionSites .references ctx { f with params }).filter (·.place = place) =
      params.flatMap ss)
    {before after : List Param} {p : Param} (hparams : f.params = before ++ p :: after) :
    reported types ctx (.functionLike f) place =
      reported types ctx (.functionLike { f with params := before }) place
        ++ findings types ctx.scope.hierarchy (ss p)
        ++ reported types ctx (.functionLike { f with params := after }) place := by
  have hf : (functionSites .references ctx f).filter (·.place = place) = f.params.flatMap ss :=
    hsites f.params
  simp only [reported_eq, sites, sitesBy]
  rw [hf, hsites, hsites, hparams, List.flatMap_append, List.flatMap_cons, ← List.append_assoc,
    findings_append, findings_append]

end function

/-- The tag of a parameter is the first that names it. -/
theorem paramTagSites_of_first {tags : ResolvedDoc} {p : Param} {tag : ParamTag}
    {earlier later : List ParamTag} (hparams : tags.params = earlier ++ tag :: later)
    (hname : tag.parameter = p.name) (hfirst : ∀ t ∈ earlier, t.parameter ≠ p.name)
    (label : String) (doc : DocComment) :
    paramTagSites .references label doc tags p =
      tagSites .references .docParam ("Doc tag @param for parameter $" ++ p.name ++ " of " ++ label)
        (doc.tagLine .param (some p.name)) tag.type := by
  have htag : tags.paramTag? p.name = some tag :=
    ResolvedDoc.paramTag?_eq_some_iff.mpr ⟨hname, earlier, later, hparams, hfirst⟩
  unfold paramTagSites
  rw [← tags.toList_paramTag?, htag, Option.toList_some, List.flatMap_singleton]

/-- **Declared types and doc tags that repeat them are reported alike.**  A native type and its
repetition refer to the same names.  Where the first tag that names a parameter repeats its declared
type, the reports on the two, which stand between those on the parameters before it and after it,
tell the same denied names with the same explanations in the same order.  So do the reports on a
result and on a tag that repeats it. -/
theorem native_and_doc_agree :
    (∀ t : TypeExpr, (DocType.ofNative t).references = t.references.map (·.text)) ∧
    ∀ (types : Denylist) (ctx : Context) (f : FunctionLike) (doc : DocComment), f.doc = some doc →
      let found := fun t : TypeExpr =>
        denials types ctx.scope.hierarchy (t.references.map (·.text))
      (∀ before p after t tag earlier later, f.params = before ++ p :: after → p.type = some t →
        (tagsOf ctx f doc).params = earlier ++ tag :: later → tag.parameter = p.name →
        (∀ other ∈ earlier, other.parameter ≠ p.name) → tag.type = DocType.ofNative t →
        ∃ declared tagged : List Diagnostic,
          reported types ctx (.functionLike f) .paramType =
            reported types ctx (.functionLike { f with params := before }) .paramType ++ declared ++
              reported types ctx (.functionLike { f with params := after }) .paramType ∧
          reported types ctx (.functionLike f) .docParam =
            reported types ctx (.functionLike { f with params := before }) .docParam ++ tagged ++
              reported types ctx (.functionLike { f with params := after }) .docParam ∧
          declared.map (·.message) = (found t).map
            (Denial.message ("Parameter $" ++ p.name ++ " of " ++ labelOf ctx f)) ∧
          tagged.map (·.message) = (found t).map (Denial.message
            ("Doc tag @param for parameter $" ++ p.name ++ " of " ++ labelOf ctx f))) ∧
      (∀ t, f.result = some t → (tagsOf ctx f doc).result = some (DocType.ofNative t) →
        (reported types ctx (.functionLike f) .resultType).map (·.message) =
          (found t).map (Denial.message ("Return type of " ++ labelOf ctx f)) ∧
        (reported types ctx (.functionLike f) .docResult).map (·.message) =
          (found t).map (Denial.message ("Doc tag @return of " ++ labelOf ctx f))) := by
  refine ⟨DocType.references_ofNative, ?_⟩
  intro types ctx f doc hdoc found
  constructor
  · intro before p after t tag earlier later hparams htype htags hname hfirst hrepeats
    refine ⟨_, _, reported_between types ctx (functionSites_paramType ctx hdoc) hparams,
      reported_between types ctx (functionSites_docParam ctx hdoc) hparams, ?_, ?_⟩
    · unfold paramSites
      rw [htype, messages_typeSites]
    · rw [paramTagSites_of_first htags hname hfirst, messages_tagSites, hrepeats,
        DocType.references_ofNative]
  · intro t hresult htag
    constructor
    · rw [reported_eq, sites, sitesBy, functionSites_resultType ctx hdoc, hresult,
        messages_typeSites]
    · rw [reported_eq, sites, sitesBy, functionSites_docResult ctx hdoc, resultTagSites, htag,
        Option.toList_some, List.flatMap_singleton, messages_tagSites, DocType.references_ofNative]

/-- A parameter that may be null and names a denied type twice, beside a builtin one, with a tag of
another parameter before its own and a second tag of its name after it. -/
theorem native_and_doc_agree_nullable :
    let t : TypeExpr := .nullable (.union [.name ⟨"Foo", 3⟩, .name ⟨"Int", 3⟩, .name ⟨"\\Foo", 4⟩])
    let types : Denylist := ⟨[{ name := "Foo", description := "old" }], [("Foo", 0)]⟩
    let tags : ResolvedDoc :=
      { params := [⟨"y", .object "Foo"⟩, ⟨"x", DocType.ofNative t⟩, ⟨"x", .object "Foo"⟩] }
    let ctx : Context :=
      ⟨{ file := "a", hierarchy := ⟨fun _ => false, fun _ => []⟩ }, fun _ => tags⟩
    let f : FunctionLike :=
      { kind := .closure, name := none, line := 3, params := [⟨"x", some t, 3⟩],
        doc := some ⟨"", 1⟩ }
    ∃ declared tagged : List Diagnostic,
      reported types ctx (.functionLike f) .paramType =
        reported types ctx (.functionLike { f with params := [] }) .paramType ++ declared ++
          reported types ctx (.functionLike { f with params := [] }) .paramType ∧
      reported types ctx (.functionLike f) .docParam =
        reported types ctx (.functionLike { f with params := [] }) .docParam ++ tagged ++
          reported types ctx (.functionLike { f with params := [] }) .docParam ∧
      declared.map (·.message) =
        ["Parameter $x of anonymous function has forbidden type Foo. old.",
          "Parameter $x of anonymous function has forbidden type \\Foo. old."] ∧
      tagged.map (·.message) =
        ["Doc tag @param for parameter $x of anonymous function has forbidden type Foo. old.",
          "Doc tag @param for parameter $x of anonymous function has forbidden type \\Foo. old."]
    := by
  intro t types tags ctx f
  obtain ⟨declared, tagged, hdeclared, htagged, hmessages, htagMessages⟩ :=
    (native_and_doc_agree.2 types ctx f ⟨"", 1⟩ rfl).1 [] ⟨"x", some t, 3⟩ [] t
      ⟨"x", DocType.ofNative t⟩ [⟨"y", .object "Foo"⟩] [⟨"x", .object "Foo"⟩] rfl rfl rfl rfl
      (by decide) rfl
  refine ⟨declared, tagged, hdeclared, htagged, hmessages.trans ?_, htagMessages.trans ?_⟩
  · decide
  · decide

end UsageRule

end TypeAudit
