import TypeAudit.Proofs.Denylist.Edits
import TypeAudit.Proofs.UsageRule.Queries

/-! # Checks under an edited denylist

A check reports on the sites of a node, and which sites a node has does not depend on the denylist.
So an edit of the denylist shows in a check only through the lookups of the sites.

* Taking an entry out, or putting one in, makes no difference to a node that names neither its type
  nor a type below it (`entry_decides_own_matches`).
* Another order of the entries leaves the same sites denied (`deniedSites_of_perm`), and the reports
  on them differ at most in the explanation (`order_decides_among_ancestors`). -/

namespace TypeAudit.UsageRule

/-! ### Taking an entry out -/

theorem findings_congr {types types' : Denylist} {h : Hierarchy} {ss : List Site}
    (hfind : ∀ s ∈ ss, (types'.find h s.name s.usage).value = (types.find h s.name s.usage).value) :
    findings types' h ss = findings types h ss := by
  unfold findings
  refine List.filterMap_congr ?_
  intro s hs
  rw [hfind s hs]

/-- **An entry decides its own matches and no others.**  Take an entry out of a denylist, at any
place: a name that is not the type of the entry, and is not denied as one of its descendants, is
looked up with the same answer.  So a new entry at the end leaves every match for another name as it
is, and a node where no type is named that is the type of an entry or has it among its ancestors is
checked with the same diagnostics with and without that entry. -/
theorem entry_decides_own_matches {types : Denylist} (hd : types.Built) :
    (∀ before e after, types.entries = before ++ e :: after →
      ∃ rest, Denylist.ofEntries (before ++ after) = .ok rest ∧ rest.entries = before ++ after ∧
        (∀ h name usage, TypeName.bare name ≠ e.name →
          (types.find h name usage).value.bind Match.ancestor? ≠ some e.name →
          (rest.find h name usage).value = (types.find h name usage).value) ∧
        ∀ ctx node,
          (∀ s ∈ sites ctx node, TypeName.bare s.name ≠ e.name ∧
            e.name ∉ ctx.scope.hierarchy.ancestors (TypeName.bare s.name)) →
          (check rest ctx node).value = (check types ctx node).value) ∧
    ∀ new grown, Denylist.ofEntries (types.entries ++ [new]) = .ok grown →
      ∀ h name usage m, TypeName.bare name ≠ TypeName.bare new.name →
        (types.find h name usage).value = some m → (grown.find h name usage).value = some m := by
  refine ⟨?_, fun new grown hgrown h name usage m => Denylist.find_appended hd hgrown⟩
  intro before e after hsplit
  obtain ⟨rest, hrest, hentries⟩ := hd.exists_without hsplit
  have hwf := (Denylist.ofEntries_eq_ok hrest).1
  refine ⟨rest, hrest, hentries, ?_, ?_⟩
  · intro h name usage hname hancestor
    refine hd.wellFormed.find_without hwf hsplit hentries hname ?_
    intro hfind
    rw [hfind] at hancestor
    exact hancestor rfl
  · intro ctx node hsites
    rw [(reports_check rest ctx node).value, (reports_check types ctx node).value]
    refine findings_congr ?_
    intro s hs
    obtain ⟨hname, hancestor⟩ := hsites s hs
    refine hd.wellFormed.find_without hwf hsplit hentries hname ?_
    intro hfind
    exact hancestor (Denylist.mem_ancestors_of_find hfind)

/-- The middle one of three entries goes, and a fourth comes: the entry behind it moves up, and a
class below the first two is still denied because of the first. -/
theorem entry_decides_own_matches_middle :
    let base : Entry := { name := "Base", withSubclasses := true }
    let mid : Entry := { name := "Mid", withSubclasses := true }
    let plain : Entry := { name := "Plain", description := "no" }
    let new : Entry := { name := "New", withSubclasses := true }
    let types : Denylist := ⟨[base, mid, plain], [("Plain", 2), ("Mid", 1), ("Base", 0)]⟩
    let rest : Denylist := ⟨[base, plain], [("Plain", 1), ("Base", 0)]⟩
    let grown : Denylist :=
      ⟨[base, mid, plain, new], [("New", 3), ("Plain", 2), ("Mid", 1), ("Base", 0)]⟩
    let h : Hierarchy :=
      ⟨fun _ => true, fun name => if name = "Leaf" then ["New", "Mid", "Base"] else []⟩
    let ctx : Context := ⟨{ file := "a.php", hierarchy := h }, fun _ => {}⟩
    let f : FunctionLike :=
      { kind := .function, name := some "f", line := 1, result := some (.name ⟨"\\Plain", 2⟩) }
    Denylist.ofEntries types.entries = .ok types ∧
      Denylist.ofEntries [base, plain] = .ok rest ∧
      Denylist.ofEntries (types.entries ++ [new]) = .ok grown ∧
      (rest.find h "Leaf" .structural).value = some (.inherited base) ∧
      (check rest ctx (.functionLike f)).value =
        [⟨"Return type of function f() has forbidden type \\Plain. no.",
          Place.resultType.identifier, 2⟩] ∧
      (grown.find h "Leaf" .structural).value = some (.inherited base) := by
  intro base mid plain new types rest grown h ctx f
  have hd : Denylist.ofEntries types.entries = .ok types := by decide
  have hrest : Denylist.ofEntries [base, plain] = .ok rest := by decide
  have hgrown : Denylist.ofEntries (types.entries ++ [new]) = .ok grown := by decide
  obtain ⟨hwithout, happended⟩ := entry_decides_own_matches (Or.inl ⟨_, hd⟩)
  obtain ⟨rest', hrest', _, hfind, hcheck⟩ := hwithout [base] mid [plain] rfl
  obtain rfl : rest = rest' := Except.ok.inj (hrest.symm.trans hrest')
  refine ⟨hd, hrest, hgrown, ?_, ?_, ?_⟩
  · exact (hfind h "Leaf" .structural (by decide) (by decide)).trans (by decide)
  · exact (hcheck ctx (.functionLike f) (by decide)).trans (by decide)
  · exact happended new grown hgrown h "Leaf" .structural _ (by decide) (by decide)

/-! ### Another order -/

/-- The denied sites of a node, in the order of reporting. -/
def deniedSites (types : Denylist) (ctx : Context) (node : Node) : List Site :=
  (sites ctx node).filter
    (fun s => (types.find ctx.scope.hierarchy s.name s.usage).value.isSome)

/-- The diagnostic is the report on the site. -/
def ReportOn (types : Denylist) (h : Hierarchy) (s : Site) (x : Diagnostic) : Prop :=
  ∃ found, (types.find h s.name s.usage).value = some found ∧ x = s.diagnostic found

section reports
variable (types : Denylist) (h : Hierarchy)

theorem forall₂_reportOn_findings (ss : List Site) :
    List.Forall₂ (ReportOn types h)
      (ss.filter (fun s => (types.find h s.name s.usage).value.isSome)) (findings types h ss) := by
  unfold findings
  induction ss with
  | nil => exact .nil
  | cons s ss ih =>
      cases hfind : (types.find h s.name s.usage).value with
      | none => simpa [List.filter_cons, List.filterMap_cons, hfind] using ih
      | some found =>
          have hhead : ReportOn types h s (s.diagnostic found) := ⟨found, hfind, rfl⟩
          simpa [List.filter_cons, List.filterMap_cons, hfind] using And.intro hhead ih

/-- A check gives one report on each denied site, in the order of the sites. -/
theorem forall₂_reportOn_check (ctx : Context) (node : Node) :
    List.Forall₂ (ReportOn types ctx.scope.hierarchy) (deniedSites types ctx node)
      (check types ctx node).value := by
  rw [(reports_check types ctx node).value]
  exact forall₂_reportOn_findings types ctx.scope.hierarchy (sites ctx node)

variable {types h}

/-- Reports tell the place and the line of their sites. -/
theorem marks_of_reportOn {ss : List Site} {xs : List Diagnostic}
    (hreports : List.Forall₂ (ReportOn types h) ss xs) :
    xs.map (fun x => (x.identifier, x.line)) =
      ss.map (fun s => (s.place.identifier, s.line)) := by
  induction hreports with
  | nil => rfl
  | cons hreport _ ih =>
      obtain ⟨found, _, rfl⟩ := hreport
      rw [List.map_cons, List.map_cons, ih]
      rfl

end reports

theorem deniedSites_of_perm {types types' : Denylist} (hd : types.WellFormed)
    (hd' : types'.WellFormed) (hperm : types.entries.Perm types'.entries) (ctx : Context)
    (node : Node) : deniedSites types' ctx node = deniedSites types ctx node := by
  unfold deniedSites
  simp only [Denylist.find_isSome_of_perm hd hd' hperm]

/-- **The order of the entries matters only for the choice among denied ancestors.**  Entries in
another order make a denylist whenever they do in the first.  Then every lookup of an entry and
every match by an entry of its own is the same, the same names are denied, and a name to which at
most one entry inherits gets the same answer.  So a check reports on the same sites, with the same
identifiers and lines in the same order. -/
theorem order_decides_among_ancestors {es es' : List Entry} (hperm : es.Perm es') :
    ((∃ types, Denylist.ofEntries es = .ok types) ↔ ∃ types', Denylist.ofEntries es' = .ok types') ∧
    ∀ types types', Denylist.ofEntries es = .ok types → Denylist.ofEntries es' = .ok types' →
      (∀ name, types'.get? name = types.get? name) ∧
      (∀ h name usage,
        ((types'.find h name usage).value.isSome ↔ (types.find h name usage).value.isSome) ∧
        (∀ m, m.ancestor? = none → ((types'.find h name usage).value = some m ↔
          (types.find h name usage).value = some m)) ∧
        (types.entries.countP (fun e => e.withSubclasses && e.appliesTo usage
            && h.hasClass e.name && (h.ancestors (TypeName.bare name)).contains e.name) ≤ 1 →
          (types'.find h name usage).value = (types.find h name usage).value)) ∧
      ∀ ctx node,
        List.Forall₂ (ReportOn types ctx.scope.hierarchy) (deniedSites types ctx node)
          (check types ctx node).value ∧
        List.Forall₂ (ReportOn types' ctx.scope.hierarchy) (deniedSites types ctx node)
          (check types' ctx node).value ∧
        (check types' ctx node).value.map (fun x => (x.identifier, x.line)) =
          (check types ctx node).value.map (fun x => (x.identifier, x.line)) := by
  refine ⟨⟨Denylist.exists_ofEntries_of_perm hperm,
    Denylist.exists_ofEntries_of_perm hperm.symm⟩, ?_⟩
  intro types types' htypes htypes'
  have hd := (Denylist.ofEntries_eq_ok htypes).1
  have hd' := (Denylist.ofEntries_eq_ok htypes').1
  have hentries := Denylist.entries_perm hperm htypes htypes'
  have hget := Denylist.get?_of_perm hd hd' hentries
  refine ⟨hget, ?_, ?_⟩
  · intro h name usage
    refine ⟨?_, ?_, fun hone => Denylist.find_of_perm hd hd' hentries hone⟩
    · rw [Denylist.find_isSome_of_perm hd hd' hentries]
    · intro m hm
      cases m with
      | exact e => rw [Denylist.find_eq_exact_iff, Denylist.find_eq_exact_iff, hget]
      | inherited e => cases hm
  · intro ctx node
    have hreports := forall₂_reportOn_check types ctx node
    have hreports' := forall₂_reportOn_check types' ctx node
    rw [deniedSites_of_perm hd hd' hentries] at hreports'
    exact ⟨hreports, hreports',
      (marks_of_reportOn hreports').trans (marks_of_reportOn hreports).symm⟩

/-- Two entries that both inherit to one class, in either order: the explanations differ, the
denied classes and the marks of the reports do not. -/
theorem order_decides_among_ancestors_swap :
    let a : Entry := { name := "\\A", withSubclasses := true }
    let b : Entry := { name := "B", withSubclasses := true }
    let types : Denylist := ⟨[a.normalize, b], [("B", 1), ("A", 0)]⟩
    let types' : Denylist := ⟨[b, a.normalize], [("A", 1), ("B", 0)]⟩
    let h : Hierarchy :=
      ⟨fun _ => true,
       fun name => if name = "N" then ["A", "B"] else if name = "M" then ["A"] else []⟩
    let ctx : Context := ⟨{ file := "a.php", hierarchy := h }, fun _ => {}⟩
    let f : FunctionLike :=
      { kind := .function, name := some "f", line := 1, result := some (.name ⟨"N", 2⟩) }
    [a, b].Perm [b, a] ∧ Denylist.ofEntries [a, b] = .ok types ∧
      Denylist.ofEntries [b, a] = .ok types' ∧
      (types'.find h "N" .typeHint).value ≠ (types.find h "N" .typeHint).value ∧
      (types'.find h "M" .typeHint).value = some (.inherited a.normalize) ∧
      (check types' ctx (.functionLike f)).value.map (fun x => (x.identifier, x.line)) =
        [(Place.resultType.identifier, 2)] := by
  intro a b types types' h ctx f
  have hperm : [a, b].Perm [b, a] := List.Perm.swap b a []
  have htypes : Denylist.ofEntries [a, b] = .ok types := by decide
  have htypes' : Denylist.ofEntries [b, a] = .ok types' := by decide
  obtain ⟨_, hfind, hcheck⟩ := (order_decides_among_ancestors hperm).2 types types' htypes htypes'
  refine ⟨hperm, htypes, htypes', by decide, ?_, ?_⟩
  · exact ((hfind h "M" .typeHint).2.2 (by decide)).trans (by decide)
  · exact (hcheck ctx (.functionLike f)).2.2.trans (by decide)

end TypeAudit.UsageRule
