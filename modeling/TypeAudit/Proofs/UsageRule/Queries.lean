import TypeAudit.Proofs.Denylist.Queries
import TypeAudit.Proofs.UsageRule.Sites

/-! # What a check asks of the hierarchy

Checking a node puts to the class hierarchy the questions of looking up its sites, site after site
(`Reports.queries`, `reports_check`), and the sites themselves do not depend on the hierarchy
(`sites_of_hierarchy`).  With the script of a lookup this gives every question of a check
(`hierarchy_protocol`).  A denylist without entries that deny subclasses asks nothing, and its
checks come out the same over every hierarchy. -/

namespace TypeAudit.UsageRule

/-! ### The questions of a computation that reports on sites -/

section reports
variable {types : Denylist} {h : Hierarchy}

/-- Whatever is kept of an account, resolved comments aside, is what is kept of the lookups. -/
theorem Reports.filterMap_events {β : Type} {f : Event → Option β}
    (hf : ∀ request, f (.resolve request) = none) {t : Traced (List Diagnostic)} {ss : List Site}
    (ht : Reports types h t ss) :
    t.events.filterMap f =
      ss.flatMap (fun s => (types.find h s.name s.usage).events.filterMap f) := by
  have hfilter : t.events.filterMap f = (t.events.filter (·.request?.isNone)).filterMap f := by
    rw [List.filterMap_filter]
    congr 1
    funext event
    cases event with
    | resolve request => exact hf request
    | _ => rfl
  rw [hfilter, ht.events, lookups, List.filterMap_flatMap]

/-- Having comments resolved asks nothing of the hierarchy, so the questions are those of the
lookups. -/
theorem Reports.queries {t : Traced (List Diagnostic)} {ss : List Site}
    (ht : Reports types h t ss) :
    t.queries = ss.flatMap (fun s => (types.find h s.name s.usage).queries) :=
  ht.filterMap_events (fun _ => rfl)

/-- Having comments resolved logs nothing, so the log is that of the lookups. -/
theorem Reports.entries {t : Traced (List Diagnostic)} {ss : List Site}
    (ht : Reports types h t ss) :
    t.entries = ss.flatMap (fun s => (types.find h s.name s.usage).entries) :=
  ht.filterMap_events (fun _ => rfl)

variable (hsub : ∀ e ∈ types.entries, e.withSubclasses = false)
include hsub

theorem lookups_of_no_subclass_entries (ss : List Site) : lookups types h ss = [] := by
  unfold lookups
  rw [List.flatMap_eq_nil_iff]
  intro s _
  rw [Denylist.find_of_no_subclass_entries h s.name s.usage hsub]
  rfl

theorem findings_of_no_subclass_entries (h' : Hierarchy) (ss : List Site) :
    findings types h' ss = findings types h ss := by
  unfold findings
  simp only [Denylist.find_of_no_subclass_entries _ _ _ hsub]

end reports

/-! ### The questions of a check -/

/-- A check reports on the sites of the node.  The empty denylist is no exception, though it has no
comment resolved. -/
theorem reports_check (types : Denylist) (ctx : Context) (node : Node) :
    Reports types ctx.scope.hierarchy (check types ctx node) (sites ctx node) := by
  unfold check
  split_ifs with hempty
  · have hsub : ∀ e ∈ types.entries, e.withSubclasses = false := by
      rw [List.isEmpty_iff.mp hempty]
      exact fun e he => absurd he List.not_mem_nil
    exact ⟨(findings_of_isEmpty _ hempty _).symm, (lookups_of_no_subclass_entries hsub _).symm⟩
  · cases node with
    | classLike c => exact reports_checkClass types ctx c
    | functionLike f => exact reports_checkFunction types ctx f
    | statement s => exact reports_checkStatement types ctx s

theorem sites_of_hierarchy (ctx : Context) (h : Hierarchy) (node : Node) :
    sites { ctx with scope := { ctx.scope with hierarchy := h } } node = sites ctx node := by
  cases node <;> rfl

/-- **The questions put to the hierarchy.**  A lookup asks exactly what its script says, and a check
asks what the lookups of its sites ask, in their order.  So a denylist none of whose entries denies
subclasses never asks anything, and its checks give the same diagnostics over every hierarchy. -/
theorem hierarchy_protocol {types : Denylist} (hd : types = Denylist.empty ∨ types.Built) :
    (∀ h name usage, (types.find h name usage).queries =
      Denylist.script h (TypeName.bare name) usage types.entries) ∧
    (∀ ctx node, (check types ctx node).queries = (sites ctx node).flatMap (fun s =>
      Denylist.script ctx.scope.hierarchy (TypeName.bare s.name) s.usage types.entries)) ∧
    ((∀ e ∈ types.entries, e.withSubclasses = false) → ∀ ctx node,
      (check types ctx node).queries = [] ∧
      ∀ h, (check types { ctx with scope := { ctx.scope with hierarchy := h } } node).value =
        (check types ctx node).value) := by
  have hbuilt : types.Built := hd.elim (fun h => h ▸ Denylist.built_empty) id
  have hfind : ∀ h name usage, (types.find h name usage).queries =
      Denylist.script h (TypeName.bare name) usage types.entries :=
    fun h name usage => hbuilt.wellFormed.find_queries h name usage
  refine ⟨hfind, ?_, ?_⟩
  · intro ctx node
    rw [(reports_check types ctx node).queries]
    simp only [hfind]
  · intro hsub ctx node
    constructor
    · rw [(reports_check types ctx node).queries, List.flatMap_eq_nil_iff]
      intro s _
      rw [Denylist.find_of_no_subclass_entries _ _ _ hsub, Traced.queries_pure]
    · intro h
      rw [(reports_check types _ node).value, (reports_check types ctx node).value,
        sites_of_hierarchy]
      exact findings_of_no_subclass_entries hsub h _

/-- A structural lookup passes over an entry for type hints only, asks no ancestors for a type that
is unknown, and stops at the third entry; without subclasses in the denylist nothing is asked. -/
theorem hierarchy_protocol_structural :
    let h : Hierarchy := ⟨fun name => name ≠ "A", fun _ => ["B", "C", "D"]⟩
    let types : Denylist :=
      ⟨[{ name := "A", withSubclasses := true },
        { name := "B", typeHintOnly := true, withSubclasses := true },
        { name := "C", withSubclasses := true }, { name := "D", withSubclasses := true }],
       [("D", 3), ("C", 2), ("B", 1), ("A", 0)]⟩
    let single : Denylist := ⟨[{ name := "A" }], [("A", 0)]⟩
    (Denylist.ofEntries types.entries = .ok types ∧
      (types.find h "\\N" .structural).queries =
        [.hasClass "N", .hasClass "A", .hasClass "C", .ancestors "N"]) ∧
    Denylist.ofEntries single.entries = .ok single ∧
      ∀ ctx node, (check single ctx node).queries = [] := by
  intro h types single
  have htypes : Denylist.ofEntries types.entries = .ok types := by decide
  have hsingle : Denylist.ofEntries single.entries = .ok single := by decide
  refine ⟨⟨htypes, ?_⟩, hsingle, ?_⟩
  · rw [(hierarchy_protocol (Or.inr (Or.inl ⟨_, htypes⟩))).1]
    decide
  · intro ctx node
    exact ((hierarchy_protocol (Or.inr (Or.inl ⟨_, hsingle⟩))).2.2 (by decide) ctx node).1

end TypeAudit.UsageRule
