import Mathlib.Data.List.Forall2
import Mathlib.Logic.Relation
import TypeAudit.Proofs.UsageRule.Queries

/-! # Rewriting types

A type can be written in many ways that refer to the same classes in the same order.  `Rewrite` is
one step between two such ways, at any depth of the type, and `Equivalent` any number of steps in
either direction; both are given for native expressions (`TypeExpr`) and for resolved doc types
(`DocType`):

* a union and the intersection of the same branches can stand for each other, a joined type among
  the branches of another can be replaced by its own branches, and branches that refer to nothing
  can come and go;
* a native type can be made nullable;
* a doc type that denotes a class can be replaced by any other that denotes it, whatever its
  arguments, and the elements of an array type do not matter.

A step keeps the references (`Rewrite.references_eq`), so a node has the same sites after its native
types and the answers of the resolver were rewritten (`sites_of_rewritten`), and its check gives the
same diagnostics (`check_of_rewritten`). -/

namespace TypeAudit

/-- The two ways to join types. -/
inductive Join where
  | union
  | intersection
deriving DecidableEq, Repr

/-- Steps that keep a value keep it in any number and direction. -/
theorem eq_of_eqvGen {α β : Type} {r : α → α → Prop} (f : α → β) (hstep : ∀ a b, r a b → f a = f b)
    {a b : α} (h : Relation.EqvGen r a b) : f a = f b :=
  (eq_equivalence.comap f).eqvGen_iff.mp (Relation.EqvGen.mono hstep _ _ h)

/-! ### Native types -/

namespace TypeExpr

/-- The type that joins some branches. -/
def join : Join → List TypeExpr → TypeExpr
  | .union => union
  | .intersection => intersection

/-- The expression is a leaf that refers to no class. -/
inductive Silent : TypeExpr → Prop where
  | keyword (ref : NameRef) : Silent (keyword ref)
  | builtin (ref : NameRef) (h : TypeName.isBuiltin ref.text = true) : Silent (name ref)

/-- One rewriting step, at any depth. -/
inductive Rewrite : TypeExpr → TypeExpr → Prop where
  | nullable (t : TypeExpr) : Rewrite t (nullable t)
  | exchange (j j' : Join) (branches : List TypeExpr) : Rewrite (join j branches) (join j' branches)
  | splice (j j' : Join) (before inner after : List TypeExpr) :
      Rewrite (join j (before ++ join j' inner :: after)) (join j (before ++ inner ++ after))
  | insert (j : Join) (before after : List TypeExpr) {t : TypeExpr} (h : Silent t) :
      Rewrite (join j (before ++ after)) (join j (before ++ t :: after))
  | inNullable {t t' : TypeExpr} (h : Rewrite t t') : Rewrite (.nullable t) (.nullable t')
  | inBranch (j : Join) (before after : List TypeExpr) {t t' : TypeExpr} (h : Rewrite t t') :
      Rewrite (join j (before ++ t :: after)) (join j (before ++ t' :: after))

/-- Any number of steps in either direction. -/
def Equivalent : TypeExpr → TypeExpr → Prop := Relation.EqvGen Rewrite

theorem referencesOfAll_eq_flatMap (branches : List TypeExpr) :
    referencesOfAll branches = branches.flatMap references := by
  induction branches with
  | nil => rw [referencesOfAll, List.flatMap_nil]
  | cons branch rest ih => rw [referencesOfAll, ih, List.flatMap_cons]

theorem references_join (j : Join) (branches : List TypeExpr) :
    (join j branches).references = branches.flatMap references := by
  cases j <;> rw [join, references, referencesOfAll_eq_flatMap]

theorem Silent.references_eq {t : TypeExpr} (h : Silent t) : t.references = [] := by
  cases h with
  | keyword ref => rw [references]
  | builtin ref h => rw [references, if_pos h]

theorem Rewrite.references_eq {t t' : TypeExpr} (h : Rewrite t t') :
    t.references = t'.references := by
  induction h with
  | nullable t => rw [references]
  | exchange j j' branches => rw [references_join, references_join]
  | splice j j' before inner after => simp [references_join]
  | insert j before after h => simp [references_join, h.references_eq]
  | inNullable h ih => rw [references, references, ih]
  | inBranch j before after h ih => simp [references_join, ih]

theorem Equivalent.references_eq {t t' : TypeExpr} (h : Equivalent t t') :
    t.references = t'.references :=
  eq_of_eqvGen references (fun _ _ hstep => hstep.references_eq) h

end TypeExpr

/-! ### Doc types -/

namespace DocType

/-- The type that joins some branches. -/
def join : Join → List DocType → DocType
  | .union => union
  | .intersection => intersection

/-- The type denotes one class: its objects, its names, or its objects with type arguments. -/
inductive Denotes : DocType → String → Prop where
  | object (className : String) : Denotes (object className) className
  | classString (className : String) : Denotes (classString className) className
  | generic (className : String) (arguments : List DocType) :
      Denotes (generic className arguments) className

/-- The type denotes no class. -/
inductive Silent : DocType → Prop where
  | keyword (word : String) : Silent (keyword word)
  | array (element : DocType) : Silent (array element)

/-- One rewriting step, at any depth. -/
inductive Rewrite : DocType → DocType → Prop where
  | sameClass {t t' : DocType} {className : String} (h : Denotes t className)
      (h' : Denotes t' className) : Rewrite t t'
  | element (t t' : DocType) : Rewrite (array t) (array t')
  | exchange (j j' : Join) (branches : List DocType) : Rewrite (join j branches) (join j' branches)
  | splice (j j' : Join) (before inner after : List DocType) :
      Rewrite (join j (before ++ join j' inner :: after)) (join j (before ++ inner ++ after))
  | insert (j : Join) (before after : List DocType) {t : DocType} (h : Silent t) :
      Rewrite (join j (before ++ after)) (join j (before ++ t :: after))
  | inBranch (j : Join) (before after : List DocType) {t t' : DocType} (h : Rewrite t t') :
      Rewrite (join j (before ++ t :: after)) (join j (before ++ t' :: after))

/-- Any number of steps in either direction. -/
def Equivalent : DocType → DocType → Prop := Relation.EqvGen Rewrite

theorem classesOfAll_eq_flatMap (branches : List DocType) :
    classesOfAll branches = branches.flatMap classes := by
  induction branches with
  | nil => rw [classesOfAll, List.flatMap_nil]
  | cons branch rest ih => rw [classesOfAll, ih, List.flatMap_cons]

theorem classes_join (j : Join) (branches : List DocType) :
    (join j branches).classes = branches.flatMap classes := by
  cases j <;> rw [join, classes, classesOfAll_eq_flatMap]

theorem Denotes.classes_eq {t : DocType} {className : String} (h : Denotes t className) :
    t.classes = [className] := by
  cases h <;> rw [classes]

theorem Silent.classes_eq {t : DocType} (h : Silent t) : t.classes = [] := by
  cases h <;> rw [classes]

theorem Rewrite.classes_eq {t t' : DocType} (h : Rewrite t t') : t.classes = t'.classes := by
  induction h with
  | sameClass h h' => rw [h.classes_eq, h'.classes_eq]
  | element t t' => rw [classes, classes]
  | exchange j j' branches => rw [classes_join, classes_join]
  | splice j j' before inner after => simp [classes_join]
  | insert j before after h => simp [classes_join, h.classes_eq]
  | inBranch j before after h ih => simp [classes_join, ih]

theorem Equivalent.references_eq {t t' : DocType} (h : Equivalent t t') :
    t.references = t'.references := by
  unfold references
  rw [eq_of_eqvGen classes (fun _ _ hstep => hstep.classes_eq) h]

end DocType

/-! ### Nodes and answers of the resolver -/

/-- The property with its native type rewritten. -/
inductive Property.Rewritten : Property → Property → Prop where
  | mk (p : Property) {type : Option TypeExpr} (h : Option.Rel TypeExpr.Equivalent p.type type) :
      Rewritten p { p with type }

inductive Param.Rewritten : Param → Param → Prop where
  | mk (p : Param) {type : Option TypeExpr} (h : Option.Rel TypeExpr.Equivalent p.type type) :
      Rewritten p { p with type }

/-- The node with its native types rewritten. -/
inductive Node.Rewritten : Node → Node → Prop where
  | classLike (c : ClassLike) {properties : List Property}
      (h : List.Forall₂ Property.Rewritten c.properties properties) :
      Rewritten (.classLike c) (.classLike { c with properties })
  | functionLike (f : FunctionLike) {params : List Param} {result : Option TypeExpr}
      (hparams : List.Forall₂ Param.Rewritten f.params params)
      (hresult : Option.Rel TypeExpr.Equivalent f.result result) :
      Rewritten (.functionLike f) (.functionLike { f with params, result })
  | statement (s : Statement) : Rewritten (.statement s) (.statement s)

inductive VarTag.Rewritten : VarTag → VarTag → Prop where
  | mk (tag : VarTag) {type : DocType} (h : tag.type.Equivalent type) :
      Rewritten tag { tag with type }

inductive ParamTag.Rewritten : ParamTag → ParamTag → Prop where
  | mk (tag : ParamTag) {type : DocType} (h : tag.type.Equivalent type) :
      Rewritten tag { tag with type }

structure ResolvedDoc.Rewritten (doc doc' : ResolvedDoc) : Prop where
  vars : List.Forall₂ VarTag.Rewritten doc.vars doc'.vars
  params : List.Forall₂ ParamTag.Rewritten doc.params doc'.params
  result : Option.Rel DocType.Equivalent doc.result doc'.result

namespace UsageRule

/-! ### Sites of related lists -/

section lists
variable {α β γ : Type} {R : α → β → Prop} {f : α → List γ} {g : β → List γ}

theorem flatMap_of_forall₂ (hfg : ∀ a b, R a b → f a = g b) {as : List α} {bs : List β}
    (h : List.Forall₂ R as bs) : as.flatMap f = bs.flatMap g := by
  induction h with
  | nil => rfl
  | cons hab _ ih => rw [List.flatMap_cons, List.flatMap_cons, hfg _ _ hab, ih]

theorem flatMap_of_optionRel (hfg : ∀ a b, R a b → f a = g b) {a : Option α} {b : Option β}
    (h : Option.Rel R a b) : a.toList.flatMap f = b.toList.flatMap g := by
  cases h with
  | none => rfl
  | some hab => rw [Option.toList_some, Option.toList_some, List.flatMap_singleton,
      List.flatMap_singleton, hfg _ _ hab]

theorem optionRel_find?_of_forall₂ {p : α → Bool} {q : β → Bool} (hpq : ∀ a b, R a b → p a = q b)
    {as : List α} {bs : List β} (h : List.Forall₂ R as bs) :
    Option.Rel R (as.find? p) (bs.find? q) := by
  induction h with
  | nil => exact .none
  | @cons a b as bs hab _ ih =>
      rw [List.find?_cons, List.find?_cons, hpq a b hab]
      cases q b with
      | true => exact .some hab
      | false => exact ih

end lists

/-! ### The sites of rewritten nodes -/

theorem typeSites_of_rewritten (place : Place) (subject : String) {type type' : Option TypeExpr}
    (h : Option.Rel TypeExpr.Equivalent type type') :
    typeSites .references place subject type = typeSites .references place subject type' := by
  refine flatMap_of_optionRel ?_ h
  intro t t' ht
  exact congrArg (List.map _) ht.references_eq

theorem tagSites_of_equivalent (place : Place) (subject : String) (line : Nat)
    {type type' : DocType} (h : type.Equivalent type') :
    tagSites .references place subject line type =
      tagSites .references place subject line type' :=
  congrArg (List.map _) h.references_eq

theorem varSites_of_rewritten (subject : Option String → String) (line : Nat)
    {tags tags' : List VarTag} (h : List.Forall₂ VarTag.Rewritten tags tags') :
    tags.flatMap (fun tag =>
        tagSites .references .docVar (subject tag.variableName) line tag.type) =
      tags'.flatMap (fun tag =>
        tagSites .references .docVar (subject tag.variableName) line tag.type) := by
  refine flatMap_of_forall₂ ?_ h
  rintro tag _ ⟨htype⟩
  exact tagSites_of_equivalent _ _ _ htype

theorem paramTag?_of_rewritten {doc doc' : ResolvedDoc} (h : doc.Rewritten doc')
    (parameter : String) :
    Option.Rel ParamTag.Rewritten (doc.paramTag? parameter) (doc'.paramTag? parameter) := by
  refine optionRel_find?_of_forall₂ ?_ h.params
  rintro tag _ ⟨_⟩
  rfl

theorem paramTagSites_of_rewritten {tags tags' : ResolvedDoc} (h : tags.Rewritten tags')
    (label : String) (doc : DocComment) (p : Param) :
    paramTagSites .references label doc tags p = paramTagSites .references label doc tags' p := by
  unfold paramTagSites
  rw [← tags.toList_paramTag?, ← tags'.toList_paramTag?]
  refine flatMap_of_optionRel ?_ (paramTag?_of_rewritten h p.name)
  rintro tag _ ⟨htype⟩
  exact tagSites_of_equivalent _ _ _ htype

section sites
variable (scope : Scope) {docs docs' : DocResolver}
  (hdocs : ∀ request, (docs request).Rewritten (docs' request))
include hdocs

theorem classSites_of_rewritten (c : ClassLike) {properties : List Property}
    (h : List.Forall₂ Property.Rewritten c.properties properties) :
    classSites .references ⟨scope, docs⟩ c =
      classSites .references ⟨scope, docs'⟩ { c with properties } := by
  have htypes : c.properties.flatMap (fun p => typeSites .references .propertyType
        ("Property " ++ propertyLabel (classLabel c.name) p.names) p.type) =
      properties.flatMap (fun p => typeSites .references .propertyType
        ("Property " ++ propertyLabel (classLabel c.name) p.names) p.type) := by
    refine flatMap_of_forall₂ ?_ h
    rintro p _ ⟨htype⟩
    exact typeSites_of_rewritten _ _ htype
  have hcomments : c.properties.flatMap (propertyDocSites .references ⟨scope, docs⟩ c) =
      properties.flatMap (propertyDocSites .references ⟨scope, docs'⟩ { c with properties }) := by
    refine flatMap_of_forall₂ ?_ h
    rintro p _ ⟨_⟩
    refine List.flatMap_congr ?_
    intro doc _
    exact varSites_of_rewritten (fun _ => _) _ (hdocs _).vars
  unfold classSites
  rw [htypes, hcomments]
  rfl

theorem functionDocSites_of_rewritten (label : String) (f : FunctionLike) {params : List Param}
    {result : Option TypeExpr} (h : List.Forall₂ Param.Rewritten f.params params) :
    functionDocSites .references ⟨scope, docs⟩ label f =
      functionDocSites .references ⟨scope, docs'⟩ label { f with params, result } := by
  refine List.flatMap_congr ?_
  intro doc _
  have hresolved := hdocs (functionRequest ⟨scope, docs⟩ f doc)
  refine congrArg₂ (· ++ ·) (flatMap_of_forall₂ ?_ h) (flatMap_of_optionRel ?_ hresolved.result)
  · rintro p _ ⟨_⟩
    exact paramTagSites_of_rewritten hresolved label doc p
  · intro type type' htype
    exact tagSites_of_equivalent _ _ _ htype

theorem functionSites_of_rewritten (f : FunctionLike) {params : List Param}
    {result : Option TypeExpr} (hparams : List.Forall₂ Param.Rewritten f.params params)
    (hresult : Option.Rel TypeExpr.Equivalent f.result result) :
    functionSites .references ⟨scope, docs⟩ f =
      functionSites .references ⟨scope, docs'⟩ { f with params, result } := by
  unfold functionSites
  refine congrArg₂ (· ++ ·) (congrArg₂ (· ++ ·) (flatMap_of_forall₂ ?_ hparams)
    (typeSites_of_rewritten _ _ hresult)) (functionDocSites_of_rewritten scope hdocs _ f hparams)
  rintro p _ ⟨htype⟩
  exact typeSites_of_rewritten _ _ htype

theorem sites_of_rewritten {node node' : Node} (h : node.Rewritten node') :
    sites ⟨scope, docs⟩ node = sites ⟨scope, docs'⟩ node' := by
  cases h with
  | classLike c h => exact classSites_of_rewritten scope hdocs c h
  | functionLike f hparams hresult => exact functionSites_of_rewritten scope hdocs f hparams hresult
  | statement s => exact varSites_of_rewritten varSubject _ (hdocs _).vars

end sites

/-- **Rewriting types does not change reports.**  Rewrite the native types of a node, and the types
in the answers of the resolver, in any number of places and steps: the check gives the same
diagnostics in the same order. -/
theorem check_of_rewritten (types : Denylist) (scope : Scope) {docs docs' : DocResolver}
    (hdocs : ∀ request, (docs request).Rewritten (docs' request)) {node node' : Node}
    (hnode : node.Rewritten node') :
    (check types ⟨scope, docs⟩ node).value = (check types ⟨scope, docs'⟩ node').value := by
  rw [(reports_check types ⟨scope, docs⟩ node).value,
    (reports_check types ⟨scope, docs'⟩ node').value, sites_of_rewritten scope hdocs hnode]

/-- A parameter and the `@return` tag of a function in two ways of writing.  The parameter's type is
spliced, exchanged, given a builtin branch and made nullable inside; in the tag an array goes, and a
class gets an argument. -/
theorem check_of_rewritten_nested :
    let types : Denylist := ⟨[{ name := "Foo", description := "old" }], [("Foo", 0)]⟩
    let scope : Scope := { file := "a.php", hierarchy := ⟨fun _ => false, fun _ => []⟩ }
    let foo : TypeExpr := .name ⟨"Foo", 3⟩
    let int : TypeExpr := .name ⟨"Int", 4⟩
    let declared : TypeExpr := .union [.intersection [foo, foo]]
    let declared' : TypeExpr := .intersection [foo, int, .nullable foo]
    let tag : DocType := .union [.object "Foo", .array (.object "Foo")]
    let tag' : DocType := .union [.generic "Foo" [.object "Bar"]]
    let docs : DocResolver := fun _ => { result := some tag }
    let docs' : DocResolver := fun _ => { result := some tag' }
    let f : FunctionLike :=
      { kind := .function, name := some "f", line := 3, params := [⟨"x", some declared, 3⟩],
        doc := some ⟨"/** @return Foo */", 2⟩ }
    let f' : FunctionLike := { f with params := [⟨"x", some declared', 3⟩] }
    (∀ request, (docs request).Rewritten (docs' request)) ∧
      (Node.functionLike f).Rewritten (.functionLike f') ∧
      (check types ⟨scope, docs'⟩ (.functionLike f')).value =
        [⟨"Parameter $x of function f() has forbidden type Foo. old.",
            Place.paramType.identifier, 3⟩,
          ⟨"Parameter $x of function f() has forbidden type Foo. old.",
            Place.paramType.identifier, 3⟩,
          ⟨"Doc tag @return of function f() has forbidden type Foo. old.",
            Place.docResult.identifier, 2⟩] := by
  intro types scope foo int declared declared' tag tag' docs docs' f f'
  have hspliced : TypeExpr.Rewrite declared (.union [foo, foo]) :=
    .splice .union .intersection [] [foo, foo] []
  have hexchanged : TypeExpr.Rewrite (.union [foo, foo]) (.intersection [foo, foo]) :=
    .exchange .union .intersection [foo, foo]
  have hinserted : TypeExpr.Rewrite (.intersection [foo, foo]) (.intersection [foo, int, foo]) :=
    .insert .intersection [foo] [foo] (.builtin ⟨"Int", 4⟩ (by decide))
  have hnullable : TypeExpr.Rewrite (.intersection [foo, int, foo]) declared' :=
    .inBranch .intersection [foo, int] [] (.nullable foo)
  have hdeclared : declared.Equivalent declared' :=
    (((Relation.EqvGen.rel _ _ hspliced).trans _ _ _ (.rel _ _ hexchanged)).trans _ _ _
      (.rel _ _ hinserted)).trans _ _ _ (.rel _ _ hnullable)
  have harray : DocType.Rewrite (.union [.object "Foo"]) tag :=
    .insert .union [.object "Foo"] [] (.array (.object "Foo"))
  have hclass : DocType.Rewrite (.union [.object "Foo"]) tag' :=
    .inBranch .union [] [] (.sameClass (.object "Foo") (.generic "Foo" [.object "Bar"]))
  have htag : tag.Equivalent tag' :=
    (Relation.EqvGen.symm _ _ (.rel _ _ harray)).trans _ _ _ (.rel _ _ hclass)
  have hdocs : ∀ request, (docs request).Rewritten (docs' request) :=
    fun _ => ⟨.nil, .nil, .some htag⟩
  have hnode : (Node.functionLike f).Rewritten (.functionLike f') :=
    .functionLike f (.cons (.mk ⟨"x", some declared, 3⟩ (.some hdeclared)) .nil) .none
  refine ⟨hdocs, hnode, (check_of_rewritten types scope hdocs hnode).symm.trans ?_⟩
  decide +kernel

end UsageRule

end TypeAudit
