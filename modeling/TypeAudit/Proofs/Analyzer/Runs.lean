import TypeAudit.Proofs.Analyzer.Dispatch

/-! # Runs in parts

Rules keep nothing between visits, so a run can be cut anywhere.  The loop of a run adds one node
after the other to a report (`record`); going on from a report extends it by the report of the
nodes still to come (`foldl_record`).

* `analyze_append` and `analyze_flatten`: the reports of consecutive parts, joined in order, are
  the report of the whole.
* `analyze_perm`: in another order of visits the same violations are found, in another order.

Reports with `extend` and `empty` are a monoid (`extend_assoc`, `empty_extend`, `extend_empty`),
and an analysis is a homomorphism to it from streams of visits (`analyze_homomorphism`). -/

namespace TypeAudit

namespace Report

/-! ### Joining reports -/

theorem empty_extend (r : Report) : empty.extend r = r := by
  simp [empty, extend]

theorem extend_empty (r : Report) : r.extend empty = r := by
  simp [empty, extend]

theorem extend_assoc (r s t : Report) : (r.extend s).extend t = r.extend (s.extend t) := by
  simp only [extend, List.append_assoc, Nat.add_assoc]

theorem byIdentifier_extend (r s : Report) (identifier : String) :
    (r.extend s).byIdentifier identifier = r.byIdentifier identifier ++ s.byIdentifier identifier :=
  List.filter_append _ _

end Report

namespace Analyzer

variable (a : Analyzer)

/-! ### One node after the other -/

/-- The report with one more node. -/
def record (report : Report) (visit : Visit) : Report where
  violations := report.violations ++ (a.checkNode visit).value
  nodesChecked := report.nodesChecked + 1

theorem analyze_nil : (a.analyze []).value = Report.empty := by
  rw [analyze_value]
  rfl

/-- One step of a run extends the report by that of the node alone. -/
theorem record_eq_extend (report : Report) (visit : Visit) :
    a.record report visit = report.extend (a.analyze [visit]).value := by
  rw [analyze_value, List.flatMap_singleton]
  rfl

theorem analyze_cons (visit : Visit) (visits : List Visit) :
    (a.analyze (visit :: visits)).value =
      (a.analyze [visit]).value.extend (a.analyze visits).value := by
  simp only [analyze_value, List.flatMap_cons, List.flatMap_nil, List.append_nil, Report.extend,
    List.length_cons, List.length_nil, Report.mk.injEq, true_and]
  omega

/-- A run that goes on from a report extends it by the report of the rest. -/
theorem foldl_record (visits : List Visit) (report : Report) :
    visits.foldl a.record report = report.extend (a.analyze visits).value := by
  induction visits generalizing report with
  | nil => rw [List.foldl_nil, analyze_nil, Report.extend_empty]
  | cons visit visits ih =>
      rw [List.foldl_cons, ih, record_eq_extend, Report.extend_assoc, ← analyze_cons]

theorem analyze_eq_foldl (visits : List Visit) :
    (a.analyze visits).value = visits.foldl a.record Report.empty := by
  rw [foldl_record, Report.empty_extend]

/-! ### Parts of a run -/

theorem analyze_append (xs ys : List Visit) :
    (a.analyze (xs ++ ys)).value = (a.analyze xs).value.extend (a.analyze ys).value := by
  rw [analyze_eq_foldl, List.foldl_append, ← analyze_eq_foldl, foldl_record]

/-- Parts of a run joined in order, from a report on. -/
theorem foldl_extend_analyze (parts : List (List Visit)) (report : Report) :
    (parts.map (fun part => (a.analyze part).value)).foldl Report.extend report =
      report.extend (a.analyze parts.flatten).value := by
  induction parts generalizing report with
  | nil => rw [List.map_nil, List.foldl_nil, List.flatten_nil, analyze_nil, Report.extend_empty]
  | cons part parts ih =>
      rw [List.map_cons, List.foldl_cons, ih, Report.extend_assoc, ← analyze_append,
        List.flatten_cons]

theorem analyze_flatten (parts : List (List Visit)) :
    (a.analyze parts.flatten).value =
      (parts.map (fun part => (a.analyze part).value)).foldl Report.extend Report.empty := by
  rw [foldl_extend_analyze, Report.empty_extend]

theorem analyze_perm {xs ys : List Visit} (h : xs.Perm ys) :
    (a.analyze xs).value.violations.Perm (a.analyze ys).value.violations ∧
      (a.analyze xs).value.nodesChecked = (a.analyze ys).value.nodesChecked := by
  rw [analyze_value, analyze_value]
  exact ⟨h.flatMap_right _, h.length_eq⟩

/-- **An analysis is a homomorphism** from streams of visits, joined one after the other, to
reports, joined by `extend`: the loop adds the nodes one after the other to the empty report, so a
run may be cut into consecutive parts whose reports are joined in order.  The report counts the
visits and holds the violations of each in turn; visits in another order give the same violations
in another order.  Selecting by an identifier respects joining. -/
theorem analyze_homomorphism :
    (∀ visits, (a.analyze visits).value = visits.foldl a.record Report.empty) ∧
    (a.analyze []).value = Report.empty ∧
    (∀ xs ys, (a.analyze (xs ++ ys)).value = (a.analyze xs).value.extend (a.analyze ys).value) ∧
    (∀ r : Report, Report.empty.extend r = r ∧ r.extend Report.empty = r) ∧
    (∀ r s t : Report, (r.extend s).extend t = r.extend (s.extend t)) ∧
    (∀ parts : List (List Visit), (a.analyze parts.flatten).value =
      (parts.map (fun part => (a.analyze part).value)).foldl Report.extend Report.empty) ∧
    (∀ visits, (a.analyze visits).value.nodesChecked = visits.length ∧
      (a.analyze visits).value.violations =
        (visits.map (fun visit => (a.checkNode visit).value)).flatten) ∧
    (∀ xs ys : List Visit, xs.Perm ys →
      (a.analyze xs).value.violations.Perm (a.analyze ys).value.violations ∧
      (a.analyze xs).value.nodesChecked = (a.analyze ys).value.nodesChecked) ∧
    ∀ (r s : Report) identifier, (r.extend s).byIdentifier identifier =
      r.byIdentifier identifier ++ s.byIdentifier identifier := by
  refine ⟨a.analyze_eq_foldl, a.analyze_nil, a.analyze_append,
    fun r => ⟨r.empty_extend, r.extend_empty⟩, Report.extend_assoc, a.analyze_flatten, ?_,
    fun _ _ => a.analyze_perm, Report.byIdentifier_extend⟩
  intro visits
  rw [analyze_value]
  exact ⟨rfl, List.flatMap_def⟩

/-- Two nodes with one violation each, visited in both orders. -/
theorem analyze_homomorphism_two_nodes :
    let rule : Rule :=
      { name := "line", kinds := [.statement]
        check := fun _ node => pure [⟨"seen", "line", node.line⟩] }
    let a : Analyzer := { rules := [rule] }
    let context : Context :=
      ⟨{ file := "a", hierarchy := ⟨fun _ => false, fun _ => []⟩ }, fun _ => {}⟩
    let visit := fun line => (⟨context, .statement ⟨⟨"", line⟩, line⟩⟩ : Visit)
    (a.analyze [visit 1, visit 2]).value.violations ≠
        (a.analyze [visit 2, visit 1]).value.violations ∧
      (a.analyze [visit 1, visit 2]).value.violations.Perm
        (a.analyze [visit 2, visit 1]).value.violations := by
  intro rule a context visit
  obtain ⟨_, _, _, _, _, _, _, hperm, _⟩ := a.analyze_homomorphism
  exact ⟨by decide, (hperm _ _ (List.Perm.swap (visit 2) (visit 1) [])).1⟩

end Analyzer

end TypeAudit
