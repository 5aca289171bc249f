import TypeAudit.Proofs.UsageRule.Queries

/-! # Class-like declarations do not see what encloses them

A comment on a property is resolved against the declaration the property belongs to and nothing
else: the request (`memberRequest`) takes the file from the scope, and the class or trait from the
declaration.  These are all the requests of checking a class-like declaration
(`checkClass_requests`), and its sites are made of them and of the declaration itself
(`classSites_congr`).  So the class, trait and function around a declaration make no difference to
the check, as for an anonymous class inside a method (`classLike_ignores_enclosing`). -/

namespace TypeAudit.UsageRule

/-! ### The requests of a check -/

section requests
variable (types : Denylist) (h : Hierarchy) (place : Place) (subject : String → String)

theorem judge_requests (line : Nat) (name : String) :
    (judge types h place subject line name).requests = [] := by
  unfold judge
  rw [Traced.requests_bind, Denylist.find_requests, List.nil_append]
  cases (types.find h name place.usage).value with
  | none => rfl
  | some found => rfl

theorem judgeRefs_requests (refs : List NameRef) :
    (judgeRefs types h place subject refs).requests = [] := by
  simp [judgeRefs, judge_requests]

theorem judgeType_requests (type : Option TypeExpr) :
    (judgeType types h place subject type).requests = [] := by
  cases type with
  | none => rfl
  | some t => exact judgeRefs_requests types h place subject t.references

theorem judgeDoc_requests (line : Nat) (type : DocType) :
    (judgeDoc types h place subject line type).requests = [] := by
  simp [judgeDoc, judge_requests]

end requests

section classLike
variable (types : Denylist) (ctx : Context) (c : ClassLike)

theorem checkStructure_requests : (checkStructure types ctx c).requests = [] := by
  unfold checkStructure
  split
  · simp [judgeRefs_requests]
  · rfl

theorem checkPropertyDoc_requests (p : Property) :
    (checkPropertyDoc types ctx c.kind (classLabel c.name) p).requests =
      p.doc.toList.map (memberRequest ctx c) := by
  unfold checkPropertyDoc
  cases p.doc with
  | none => rfl
  | some doc =>
      by_cases hkind : c.kind = .trait <;>
        simp [hkind, judgeDoc_requests, memberRequest, Context.resolveMemberDoc]

/-- Checking a class-like declaration has the comments on its properties resolved, in order. -/
theorem checkClass_requests :
    (checkClass types ctx c).requests =
      c.properties.flatMap (fun p => p.doc.toList.map (memberRequest ctx c)) := by
  simp [checkClass, checkStructure_requests, checkPropertyType, judgeType_requests,
    checkPropertyDoc_requests]

end classLike

/-! ### Two scopes -/

section scopes
variable {scope scope' : Scope} (hfile : scope.file = scope'.file)
include hfile

theorem memberRequest_congr (docs : DocResolver) (c : ClassLike) :
    memberRequest ⟨scope, docs⟩ c = memberRequest ⟨scope', docs⟩ c := by
  funext doc
  unfold memberRequest
  rw [hfile]

theorem classSites_congr (docs : DocResolver) (c : ClassLike) :
    classSites .references ⟨scope, docs⟩ c = classSites .references ⟨scope', docs⟩ c := by
  unfold classSites propertyDocSites
  rw [memberRequest_congr hfile]

end scopes

/-- **Checks of class-like declarations ignore the scope around them.**  In two scopes that agree
on the file and the hierarchy, whatever class, trait and function they name, a class-like
declaration gets the same diagnostics, and the same comments are resolved in the same order. -/
theorem classLike_ignores_enclosing (types : Denylist) (docs : DocResolver) (c : ClassLike)
    (scope scope' : Scope) (hfile : scope.file = scope'.file)
    (hhierarchy : scope.hierarchy = scope'.hierarchy) :
    (check types ⟨scope, docs⟩ (.classLike c)).value =
        (check types ⟨scope', docs⟩ (.classLike c)).value ∧
      (check types ⟨scope, docs⟩ (.classLike c)).requests =
        (check types ⟨scope', docs⟩ (.classLike c)).requests := by
  constructor
  · rw [(reports_check types ⟨scope, docs⟩ _).value, (reports_check types ⟨scope', docs⟩ _).value,
      sites, sites, sitesBy, sitesBy, classSites_congr hfile, hhierarchy]
  · unfold check
    split_ifs
    · rfl
    · rw [checkClass_requests, checkClass_requests, memberRequest_congr hfile]

/-- An anonymous class inside a method, and alone: a comment that says something about anonymous
classes only. -/
theorem classLike_ignores_enclosing_anonymous :
    let types : Denylist := ⟨[{ name := "Foo" }], [("Foo", 0)]⟩
    let docs : DocResolver := fun request =>
      if request.className = some "class@anonymous" then { vars := [⟨none, .object "Foo"⟩] } else {}
    let inside : Scope :=
      { file := "a.php", className := some "Outer", functionName := some "run",
        hierarchy := ⟨fun _ => false, fun _ => []⟩ }
    let alone : Scope := { file := "a.php", hierarchy := ⟨fun _ => false, fun _ => []⟩ }
    let c : ClassLike :=
      { kind := .proper, name := none, line := 2,
        properties := [{ names := ["p"], doc := some ⟨"/** @var Foo */", 3⟩, line := 4 }] }
    (inside.className ≠ alone.className ∧ inside.functionName ≠ alone.functionName) ∧
      (check types ⟨inside, docs⟩ (.classLike c)).value =
        [⟨"Doc tag @var for property class@anonymous::$p has forbidden type Foo.",
          Place.docVar.identifier, 3⟩] ∧
      (check types ⟨inside, docs⟩ (.classLike c)).requests =
        [⟨"a.php", some "class@anonymous", none, none, "/** @var Foo */"⟩] := by
  intro types docs inside alone c
  obtain ⟨hvalue, hrequests⟩ :=
    classLike_ignores_enclosing types docs c inside alone rfl rfl
  refine ⟨by decide, hvalue.trans ?_, hrequests.trans ?_⟩
  · decide
  · decide

end TypeAudit.UsageRule
