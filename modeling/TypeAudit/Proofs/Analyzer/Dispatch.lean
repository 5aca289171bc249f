import Mathlib.Data.List.Basic
import Mathlib.Data.List.Induction
import TypeAudit.Analyzer

/-! # Which rules a node reaches

The results of an analyzer depend on its rules that are not switched off and on nothing else of
its configuration: the kinds it listens to are those they subscribe to (`nodeKinds_value`), and the
violations in a node are those they find (`checkNode_value`).  Rules that share a name are switched
off together, and a rule can subscribe to no kind or to one kind twice.

* A node of a kind nobody listens to has no violation (`checkNode_of_not_mem_nodeKinds`), so a host
  may leave such nodes out of a run (`nodeKinds_skip_exact`).
* Switching a rule off is the same as not registering it, and a section that switches nothing off
  is the same as none (`disabled_eq_unregistered`). -/

namespace TypeAudit

/-- Duplicates are erased so that what remains stands in the order of first occurrence: a new
element at the end moves no earlier one and comes after all of them. -/
theorem pairwise_idxOf_eraseDups {α : Type} [BEq α] [LawfulBEq α] (l : List α) :
    l.eraseDups.Pairwise (fun x y => l.idxOf x < l.idxOf y) := by
  induction l using List.reverseRecOn with
  | nil => exact List.Pairwise.nil
  | append_singleton l a ih =>
      have hkept : l.eraseDups.Pairwise (fun x y => (l ++ [a]).idxOf x < (l ++ [a]).idxOf y) := by
        refine ih.imp_of_mem ?_
        intro x y hx hy hlt
        rw [List.mem_eraseDups] at hx hy
        rwa [List.idxOf_append_of_mem hx, List.idxOf_append_of_mem hy]
      rw [List.eraseDups_append]
      by_cases ha : a ∈ l
      · simpa [List.removeAll, ha] using hkept
      · have hnew : ([a].removeAll l).eraseDups = [a] := by
          simp [List.removeAll, ha, List.eraseDups_cons]
        rw [hnew, List.pairwise_append]
        refine ⟨hkept, List.pairwise_singleton _ a, ?_⟩
        intro x hx y hy
        rw [List.mem_eraseDups] at hx
        rw [List.mem_singleton.mp hy, List.idxOf_append_of_mem hx, List.idxOf_append_of_notMem ha]
        have hlt := List.idxOf_lt_length_iff.mpr hx
        omega

namespace Config

/-! ### Switching rules off -/

/-- The section of the rule says `enabled = false`. -/
def Disables (config : Config) (rule : String) : Prop :=
  (config.section? rule).bind (·.enabled) = some false

instance (config : Config) (rule : String) : Decidable (config.Disables rule) :=
  inferInstanceAs (Decidable ((config.section? rule).bind (·.enabled) = some false))

theorem isEnabled_iff (config : Config) (rule : String) :
    config.isEnabled rule = true ↔ ¬ config.Disables rule := by
  unfold isEnabled Disables
  cases config.section? rule with
  | none => simp
  | some s =>
      cases hs : s.enabled with
      | none => simp [hs]
      | some b => cases b <;> simp [hs]

theorem not_disables_empty (rule : String) : ¬ empty.Disables rule := by
  simp [Disables, section?, empty]

/-- A section that does not say `enabled`, or is not the rule's, does not decide about the rule. -/
theorem disables_insert_iff {before after : List (String × Section)} {name rule : String}
    {s : Section} (hname : name ∉ (before ++ after).map Prod.fst)
    (h : rule ≠ name ∨ s.enabled = none) :
    (⟨before ++ (name, s) :: after⟩ : Config).Disables rule ↔
      (⟨before ++ after⟩ : Config).Disables rule := by
  unfold Disables section?
  rw [List.lookup_append, List.lookup_append]
  by_cases hrule : rule = name
  · subst hrule
    have hnone : (before ++ after).lookup rule = none := by
      rw [List.lookup_eq_none_iff]
      rintro ⟨key, t⟩ hmem
      rw [bne_iff_ne]
      rintro rfl
      exact hname (List.mem_map_of_mem hmem)
    rw [List.lookup_append, Option.or_eq_none_iff] at hnone
    simp [hnone, h.resolve_left (fun hne => hne rfl)]
  · rw [List.lookup_cons, beq_false_of_ne hrule]

end Config

namespace Analyzer

/-! ### The results of an analyzer -/

section results
variable (a : Analyzer)

/-- The rules that are not switched off, in order. -/
def enabledRules : List Rule := a.rules.filter (fun rule => ¬ a.config.Disables rule.name)

/-- The kinds the enabled rules subscribe to, rule by rule, with repetitions. -/
def subscriptions : List NodeKind := a.enabledRules.flatMap (·.kinds)

theorem mem_enabledRules_iff (rule : Rule) :
    rule ∈ a.enabledRules ↔ rule ∈ a.rules ∧ ¬ a.config.Disables rule.name := by
  simp [enabledRules]

/-- A rule that is switched off leaves nothing but a log entry. -/
theorem ifEnabled_eq {α : Type} (config : Config) (f : Rule → Traced (List α)) (rule : Rule) :
    ifEnabled config f rule =
      if config.Disables rule.name then ⟨[], [.log (.skipped rule.name)]⟩ else f rule := by
  unfold ifEnabled
  split_ifs with hon hoff hoff
  · exact absurd hoff ((config.isEnabled_iff rule.name).mp hon)
  · rfl
  · rfl
  · exact absurd ((config.isEnabled_iff rule.name).mpr hoff) hon

/-- Going through the rules is going through the enabled ones. -/
theorem flatMap_ifEnabled {α : Type} (f : Rule → Traced (List α)) :
    a.rules.flatMap (fun rule => (ifEnabled a.config f rule).value) =
      a.enabledRules.flatMap (fun rule => (f rule).value) := by
  unfold enabledRules
  induction a.rules with
  | nil => rfl
  | cons rule rules ih =>
      rw [List.flatMap_cons, ih, List.filter_cons, ifEnabled_eq]
      by_cases hrule : a.config.Disables rule.name <;> simp [hrule]

theorem nodeKinds_value : a.nodeKinds.value = a.subscriptions.eraseDups := by
  unfold nodeKinds subscriptions
  rw [Traced.value_bind, Traced.value_pure, Traced.value_gather, a.flatMap_ifEnabled]
  rfl

theorem checkNode_value (visit : Visit) :
    (a.checkNode visit).value = a.enabledRules.flatMap (fun rule => (runRule visit rule).value) := by
  unfold checkNode
  rw [Traced.value_gather, a.flatMap_ifEnabled]

theorem analyze_value (visits : List Visit) :
    (a.analyze visits).value =
      ⟨visits.flatMap (fun visit => (a.checkNode visit).value), visits.length⟩ := by
  unfold analyze
  simp

/-- What a rule does on a node: it is run on the kinds it subscribes to, and logged if it has
something to report. -/
theorem runRule_eq (visit : Visit) (rule : Rule) :
    runRule visit rule =
      if visit.node.kind ∈ rule.kinds then
        ⟨(rule.check visit.context visit.node).value.map
            (fun d => ⟨rule.name, visit.context.scope.file, d⟩),
          (rule.check visit.context visit.node).events ++
            if (rule.check visit.context visit.node).value = [] then []
            else [.log (.reported rule.name (rule.check visit.context visit.node).value.length
              visit.context.scope.file)]⟩
      else ⟨[], []⟩ := by
  unfold runRule
  simp only [List.contains_iff_mem]
  by_cases hkind : visit.node.kind ∈ rule.kinds
  · rw [if_pos hkind, if_pos hkind]
    rcases rule.check visit.context visit.node with ⟨_ | ⟨d, diagnostics⟩, events⟩ <;> rfl
  · rw [if_neg hkind, if_neg hkind]
    rfl

theorem runRule_value (visit : Visit) (rule : Rule) :
    (runRule visit rule).value =
      if visit.node.kind ∈ rule.kinds then
        (rule.check visit.context visit.node).value.map
          (fun d => ⟨rule.name, visit.context.scope.file, d⟩)
      else [] := by
  rw [runRule_eq]
  split_ifs <;> rfl

end results

/-! ### Nodes that nobody listens to -/

section kinds
variable (a : Analyzer)

theorem mem_nodeKinds_iff (kind : NodeKind) :
    kind ∈ a.nodeKinds.value ↔
      ∃ rule ∈ a.rules, ¬ a.config.Disables rule.name ∧ kind ∈ rule.kinds := by
  rw [nodeKinds_value, List.mem_eraseDups, subscriptions, List.mem_flatMap]
  simp only [mem_enabledRules_iff, and_assoc]

theorem pairwise_nodeKinds :
    a.nodeKinds.value.Pairwise
      (fun kind kind' => a.subscriptions.idxOf kind < a.subscriptions.idxOf kind') := by
  rw [nodeKinds_value]
  exact pairwise_idxOf_eraseDups a.subscriptions

theorem nodup_nodeKinds : a.nodeKinds.value.Nodup := by
  refine a.pairwise_nodeKinds.imp ?_
  rintro kind kind' hlt rfl
  exact Nat.lt_irrefl _ hlt

variable {a}

theorem checkNode_of_not_mem_nodeKinds {visit : Visit}
    (h : visit.node.kind ∉ a.nodeKinds.value) : (a.checkNode visit).value = [] := by
  rw [checkNode_value, List.flatMap_eq_nil_iff]
  intro rule hrule
  obtain ⟨hmem, henabled⟩ := (a.mem_enabledRules_iff rule).mp hrule
  rw [runRule_value, if_neg]
  intro hkind
  exact h ((a.mem_nodeKinds_iff _).mpr ⟨rule, hmem, henabled, hkind⟩)

variable (a)

/-- Of a run, only the nodes some rule listens to matter. -/
theorem flatMap_checkNode_filter (visits : List Visit) :
    (visits.filter (fun visit => visit.node.kind ∈ a.nodeKinds.value)).flatMap
        (fun visit => (a.checkNode visit).value) =
      visits.flatMap (fun visit => (a.checkNode visit).value) := by
  induction visits with
  | nil => rfl
  | cons visit visits ih =>
      rw [List.filter_cons, List.flatMap_cons]
      by_cases hkind : visit.node.kind ∈ a.nodeKinds.value
      · rw [if_pos (decide_eq_true hkind), List.flatMap_cons, ih]
      · rw [if_neg (by simpa using hkind), ih, checkNode_of_not_mem_nodeKinds hkind,
          List.nil_append]

/-- **Leaving out nodes nobody listens to is safe and exact.**  The kinds an analyzer names are
those its enabled rules subscribe to, each once and in the order of first subscription.  A run
without the other nodes finds the same violations in the same order and counts fewer nodes by those
left out. -/
theorem nodeKinds_skip_exact :
    a.nodeKinds.value.Nodup ∧
    (∀ kind, kind ∈ a.nodeKinds.value ↔
      ∃ rule ∈ a.rules, ¬ a.config.Disables rule.name ∧ kind ∈ rule.kinds) ∧
    a.nodeKinds.value.Pairwise
      (fun kind kind' => a.subscriptions.idxOf kind < a.subscriptions.idxOf kind') ∧
    ∀ visits : List Visit,
      let kept := visits.filter (fun visit => visit.node.kind ∈ a.nodeKinds.value)
      let removed := visits.filter (fun visit => visit.node.kind ∉ a.nodeKinds.value)
      (a.analyze kept).value.violations = (a.analyze visits).value.violations ∧
      (a.analyze kept).value.nodesChecked + removed.length =
        (a.analyze visits).value.nodesChecked := by
  refine ⟨a.nodup_nodeKinds, a.mem_nodeKinds_iff, a.pairwise_nodeKinds, ?_⟩
  intro visits kept removed
  have hlength : visits.length = kept.length + removed.length := by
    have hsplit := List.length_eq_length_filter_add (l := visits)
      (fun visit => decide (visit.node.kind ∈ a.nodeKinds.value))
    simpa [kept, removed] using hsplit
  rw [analyze_value, analyze_value]
  exact ⟨a.flatMap_checkNode_filter visits, hlength.symm⟩

end kinds

/-! ### Rules that are switched off -/

/-- The two analyzers give the same results, whatever they are shown. -/
structure SameResults (a b : Analyzer) : Prop where
  nodeKinds : a.nodeKinds.value = b.nodeKinds.value
  checkNode : ∀ visit, (a.checkNode visit).value = (b.checkNode visit).value
  analyze : ∀ visits, (a.analyze visits).value = (b.analyze visits).value

/-- The enabled rules decide about the results. -/
theorem SameResults.of_enabledRules {a b : Analyzer} (h : a.enabledRules = b.enabledRules) :
    SameResults a b := by
  have hcheck : ∀ visit, (a.checkNode visit).value = (b.checkNode visit).value := by
    intro visit
    rw [checkNode_value, checkNode_value, h]
  refine ⟨?_, hcheck, ?_⟩
  · rw [nodeKinds_value, nodeKinds_value, subscriptions, subscriptions, h]
  · intro visits
    rw [analyze_value, analyze_value]
    simp only [hcheck]

theorem enabledRules_empty (rules : List Rule) :
    enabledRules { rules, config := Config.empty } = rules := by
  unfold enabledRules
  rw [List.filter_eq_self]
  intro rule _
  exact decide_eq_true (Config.not_disables_empty rule.name)

/-- **Switching a rule off is not registering it.**  The results are those of an analyzer without
configuration for the rules that are not switched off.  A section whose rule is not registered has
no effect, and neither has one that does not say `enabled`. -/
theorem disabled_eq_unregistered (rules : List Rule) (config : Config) :
    SameResults { rules, config }
      { rules := rules.filter (fun rule => ¬ config.Disables rule.name), config := Config.empty } ∧
    ∀ before name s after, config.sections = before ++ (name, s) :: after →
      name ∉ (before ++ after).map Prod.fst →
      (∀ rule ∈ rules, rule.name ≠ name) ∨ s.enabled = none →
      SameResults { rules, config } { rules, config := ⟨before ++ after⟩ } := by
  constructor
  · apply SameResults.of_enabledRules
    rw [enabledRules_empty]
    rfl
  · intro before name s after hsections hname hvain
    obtain rfl : config = ⟨before ++ (name, s) :: after⟩ := congrArg Config.mk hsections
    apply SameResults.of_enabledRules
    apply List.filter_congr
    intro rule hrule
    have hdecides : rule.name ≠ name ∨ s.enabled = none :=
      hvain.imp_left (fun hne => hne rule hrule)
    exact decide_eq_decide.mpr (not_congr (Config.disables_insert_iff hname hdecides))

/-- Of two rules with one name and a third, the two are switched off; a section without `enabled`
has no effect. -/
theorem disabled_eq_unregistered_shared_name :
    let rule := fun (name : String) (kinds : List NodeKind) =>
      ({ name, kinds, check := fun _ node => pure [⟨name, "line", node.line⟩] } : Rule)
    let rules := [rule "a" [.statement], rule "b" [.classLike], rule "a" []]
    let config : Config := ⟨[("a", { enabled := some false }), ("b", {})]⟩
    (rules.filter (fun r => ¬ config.Disables r.name)).length = 1 ∧
      SameResults { rules, config } { rules, config := ⟨[("a", { enabled := some false })]⟩ } := by
  intro rule rules config
  refine ⟨by decide, ?_⟩
  exact (disabled_eq_unregistered rules config).2 [("a", { enabled := some false })] "b" {} []
    rfl (by decide) (Or.inr rfl)

end Analyzer

end TypeAudit
