import TypeAudit.Proofs.Denylist.Representation
import TypeAudit.Proofs.UsageRule.Queries

/-! # Builtin names in type hints

`mentions` lists every place of a node where a type is named, builtin or not and at any depth of a
type, where `sites` lists the places that are looked up in the denylist.  It is the same listing
with another collector, and the two differ by the type hints that are builtin as they are written
(`LookedUp.node`): they are left out of native types while the expression is gone through and of
doc types at the end.

A denylist goes by bare names, and the two views of a name part where it is qualified
(`isBuiltin_eq`): a builtin name in a type hint is passed over if it is written without a leading
backslash (`check_passes_over_builtins`), and with one it is looked up like any other and can be
reported (`check_reports_qualified_builtin`). -/

namespace TypeAudit

/-! ### Builtin names and bare names -/

namespace TypeName

/-- The name is written with a leading backslash. -/
def isQualified (name : String) : Bool := name.toList.head? == some '\\'

theorem isBuiltin_of_isQualified {name : String} (h : isQualified name = true) :
    isBuiltin name = false := by
  have hbuiltins : ∀ b ∈ builtins, b.toList.head? ≠ some '\\' := by decide
  have hhead : (lowerCase name).toList.head? = some '\\' := by
    rw [lowerCase, String.toList_ofList, List.head?_map, beq_iff_eq.mp h]
    decide
  rw [isBuiltin, List.contains_eq_mem, decide_eq_false_iff_not]
  intro hmem
  exact hbuiltins _ hmem hhead

/-- A name is builtin as it is written if its bare name is and it has no leading backslash. -/
theorem isBuiltin_eq (name : String) :
    isBuiltin name = (isBuiltin (bare name) && !isQualified name) := by
  cases hqualified : isQualified name with
  | true => rw [isBuiltin_of_isQualified hqualified, Bool.not_true, Bool.and_false]
  | false =>
      have hbare : bare name = name :=
        (bare_eq_self_iff name).mpr (by simpa [isQualified] using hqualified)
      rw [hbare, Bool.not_false, Bool.and_true]

end TypeName

/-! ### All names of a type -/

namespace TypeExpr

mutual

/-- The names in an expression, builtin or not, from left to right. -/
def names : TypeExpr → List NameRef
  | name ref => [ref]
  | keyword _ => []
  | nullable inner => names inner
  | union branches => namesOfAll branches
  | intersection branches => namesOfAll branches

def namesOfAll : List TypeExpr → List NameRef
  | [] => []
  | branch :: rest => names branch ++ namesOfAll rest

end

mutual

theorem references_eq_filter (t : TypeExpr) :
    t.references = t.names.filter (fun ref => !TypeName.isBuiltin ref.text) := by
  cases t with
  | name ref =>
      rw [references, names]
      cases hbuiltin : TypeName.isBuiltin ref.text <;> simp [hbuiltin]
  | keyword ref =>
      rw [references, names]
      rfl
  | nullable inner => rw [references, names, references_eq_filter inner]
  | union branches => rw [references, names, referencesOfAll_eq_filter branches]
  | intersection branches => rw [references, names, referencesOfAll_eq_filter branches]

theorem referencesOfAll_eq_filter (branches : List TypeExpr) :
    referencesOfAll branches =
      (namesOfAll branches).filter (fun ref => !TypeName.isBuiltin ref.text) := by
  cases branches with
  | nil =>
      rw [referencesOfAll, namesOfAll]
      rfl
  | cons branch rest =>
      rw [referencesOfAll, namesOfAll, List.filter_append, references_eq_filter branch,
        referencesOfAll_eq_filter rest]

end

end TypeExpr

/-! ### All names of a node -/

namespace UsageRule

/-- Reads every name, builtin or not. -/
def Collector.names : Collector := ⟨TypeExpr.names, DocType.classes⟩

theorem Collector.references_native (t : TypeExpr) :
    references.native t = (names.native t).filter (fun ref => !TypeName.isBuiltin ref.text) :=
  t.references_eq_filter

theorem Collector.references_doc (type : DocType) :
    references.doc type = (names.doc type).filter (fun name => !TypeName.isBuiltin name) :=
  rfl

/-- The places of a node where a type is named, in the order of reporting. -/
def mentions (ctx : Context) (node : Node) : List Site := sitesBy .names ctx node

/-- A type hint that is builtin as it is written. -/
def Site.isBuiltinHint (s : Site) : Bool :=
  s.place.usage = .typeHint && TypeName.isBuiltin (TypeName.bare s.name)
    && !TypeName.isQualified s.name

theorem Site.isBuiltinHint_of_hint {s : Site} (h : s.place.usage = .typeHint) :
    s.isBuiltinHint = TypeName.isBuiltin s.name := by
  rw [isBuiltinHint, TypeName.isBuiltin_eq s.name, decide_eq_true h, Bool.true_and]

/-- The places that are looked up among some places: those that are no builtin type hints. -/
def LookedUp (ss ms : List Site) : Prop := ss = ms.filter (fun s => !s.isBuiltinHint)

namespace LookedUp

theorem append {ss ts ms ns : List Site} (hs : LookedUp ss ms) (ht : LookedUp ts ns) :
    LookedUp (ss ++ ts) (ms ++ ns) := by
  unfold LookedUp at hs ht ⊢
  rw [List.filter_append, ← hs, ← ht]

theorem flatMap {α : Type} {ss ms : α → List Site} (h : ∀ a, LookedUp (ss a) (ms a))
    (as : List α) : LookedUp (as.flatMap ss) (as.flatMap ms) := by
  unfold LookedUp at h ⊢
  rw [List.filter_flatMap]
  simp only [← h]

theorem structureSites (label : String) (c : ClassLike) :
    LookedUp (structureSites label c) (structureSites label c) := by
  unfold LookedUp
  symm
  rw [List.filter_eq_self]
  intro s hs
  have husage : s.place.usage = .structural := by
    simp only [UsageRule.structureSites, List.mem_append, List.mem_map] at hs
    rcases hs with (⟨ref, -, rfl⟩ | ⟨ref, -, rfl⟩) | ⟨ref, -, rfl⟩ <;> rfl
  simp [Site.isBuiltinHint, husage]

theorem typeSites {place : Place} (hplace : place.usage = .typeHint) (subject : String)
    (type : Option TypeExpr) :
    LookedUp (typeSites .references place subject type) (typeSites .names place subject type) := by
  refine flatMap ?_ type.toList
  intro t
  unfold LookedUp
  rw [Collector.references_native, List.filter_map]
  congr 2
  funext ref
  rw [Function.comp_apply, Site.isBuiltinHint_of_hint hplace]

theorem tagSites {place : Place} (hplace : place.usage = .typeHint) (subject : String)
    (line : Nat) (type : DocType) :
    LookedUp (tagSites .references place subject line type)
      (tagSites .names place subject line type) := by
  unfold LookedUp UsageRule.tagSites
  rw [Collector.references_doc, List.filter_map]
  congr 2
  funext name
  rw [Function.comp_apply, Site.isBuiltinHint_of_hint hplace]

theorem varTags (subject : VarTag → String) (line : Nat) (tags : List VarTag) :
    let sitesOf := fun (collector : Collector) (tag : VarTag) =>
      UsageRule.tagSites collector .docVar (subject tag) line tag.type
    LookedUp (tags.flatMap (sitesOf .references)) (tags.flatMap (sitesOf .names)) := by
  refine flatMap ?_ tags
  intro tag
  exact tagSites rfl (subject tag) line tag.type

theorem node (ctx : Context) (node : Node) : LookedUp (sites ctx node) (mentions ctx node) := by
  cases node with
  | classLike c =>
      refine (append ?_ (flatMap ?_ c.properties)).append (flatMap ?_ c.properties)
      · split_ifs
        · exact flatMap (fun label => structureSites label c) c.name.toList
        · rfl
      · intro p
        exact typeSites rfl _ p.type
      · intro p
        refine flatMap ?_ p.doc.toList
        intro doc
        exact varTags _ _ _
  | functionLike f =>
      refine (append (flatMap ?_ f.params) (typeSites rfl _ f.result)).append
        (flatMap ?_ f.doc.toList)
      · intro p
        exact typeSites rfl _ p.type
      · intro doc
        refine append (flatMap ?_ f.params) (flatMap ?_ _)
        · intro p
          refine flatMap ?_ _
          intro tag
          exact tagSites rfl _ _ tag.type
        · intro type
          exact tagSites rfl _ _ type
  | statement s => exact varTags (fun tag => varSubject tag.variableName) _ _

end LookedUp

/-- **Builtin type hints are passed over**, at every depth of a type, if they are written without a
leading backslash; every other place where a type is named is looked up in the denylist, also a
type hint whose bare name is builtin but which is qualified. -/
theorem check_passes_over_builtins (types : Denylist) (ctx : Context) (node : Node) :
    (check types ctx node).value =
      ((mentions ctx node).filter (fun s => !(s.place.usage = .typeHint &&
        TypeName.isBuiltin (TypeName.bare s.name) && !TypeName.isQualified s.name))).filterMap
      (fun s => (types.find ctx.scope.hierarchy s.name s.usage).value.map s.diagnostic) := by
  have hlookedUp := LookedUp.node ctx node
  unfold LookedUp at hlookedUp
  rw [(reports_check types ctx node).value, hlookedUp]
  rfl

/-- A qualified builtin name in a type hint is reported. -/
theorem check_reports_qualified_builtin :
    let types : Denylist := ⟨[{ name := "int" }], [("int", 0)]⟩
    let ctx : Context :=
      ⟨{ file := "a.php", hierarchy := ⟨fun _ => false, fun _ => []⟩ }, fun _ => {}⟩
    let f : FunctionLike :=
      { kind := .function, name := some "f", line := 1,
        params := [⟨"x", some (.name ⟨"\\int", 1⟩), 1⟩] }
    Denylist.ofEntries types.entries = .ok types ∧
      TypeName.isBuiltin (TypeName.bare "\\int") = true ∧
      (check types ctx (.functionLike f)).value =
        [⟨"Parameter $x of function f() has forbidden type \\int.", Place.paramType.identifier, 1⟩]
    := by
  decide

end UsageRule

end TypeAudit
