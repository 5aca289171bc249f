import TypeAudit.Proofs.Analyzer.Dispatch
import TypeAudit.Proofs.Denylist.Table
import TypeAudit.Setup

/-! # From a configuration to violations

An analyzer takes two things from a configuration, both from the section of its one rule: what
stands under `types`, and whether the section switches the rule off.  The first alone decides
whether the analyzer can be set up (`TypesFault`, `TypesGiven`), so a malformed denylist is an error
in a section that is switched off as well.  The second decides in a check whether the rule is run
at all (`checkNode_rule`).

`analyzer_outcome` puts the two together: the violations in a node are the diagnostics of the rule
for the configured denylist, unless the rule is switched off. -/

namespace TypeAudit

namespace UsageRule

/-- The rule subscribes to every kind of node. -/
theorem kind_mem_rule_kinds (types : Denylist) (kind : NodeKind) : kind ∈ (rule types).kinds := by
  cases kind <;> simp [rule]

/-- The violations an analyzer with this rule alone finds in a node. -/
theorem checkNode_rule (types : Denylist) (config : Config) (visit : Visit) :
    (Analyzer.checkNode { rules := [rule types], config } visit).value =
      if config.Disables name then []
      else (check types visit.context visit.node).value.map
        (fun diagnostic => ⟨name, visit.context.scope.file, diagnostic⟩) := by
  have hrun : (Analyzer.runRule visit (rule types)).value =
      (check types visit.context visit.node).value.map
        (fun diagnostic => ⟨name, visit.context.scope.file, diagnostic⟩) := by
    rw [Analyzer.runRule_value, if_pos (kind_mem_rule_kinds types visit.node.kind)]
    rfl
  have henabled : Analyzer.enabledRules { rules := [rule types], config } =
      if config.Disables name then [] else [rule types] := by
    unfold Analyzer.enabledRules
    split_ifs with hoff <;> simp [rule, hoff]
  rw [Analyzer.checkNode_value, henabled]
  split_ifs
  · rfl
  · rw [List.flatMap_singleton, hrun]

end UsageRule

namespace Setup

/-! ### The option `types` -/

/-- What the section of the rule has under `types`. -/
def types? (config : Config) : Option Toml.Value :=
  (config.section? "forbidden-type-usage").bind (·.option? "types")

/-- The option cannot be read as a denylist, and this is the error. -/
inductive TypesFault : Option Toml.Value → SetupError → Prop
  | notATable {v : Toml.Value} (hkind : v.kind ≠ .table) :
      TypesFault (some v) (.notATable "forbidden-type-usage" "types")
  | refused {table : Toml.Table} {reason : DenylistError}
      (h : Denylist.ofTable table = .error reason) :
      TypesFault (some (.table table)) (.denylist reason)

/-- The denylist that the option gives: without it, the empty one. -/
inductive TypesGiven : Option Toml.Value → Denylist → Prop
  | absent : TypesGiven none Denylist.empty
  | table {table : Toml.Table} {types : Denylist} (h : Denylist.ofTable table = .ok types)
      (hentries : types.entries = table.map (fun kv => Entry.configured kv.1 kv.2)) :
      TypesGiven (some (.table table)) types

theorem typesGiven_or_fault (option : Option Toml.Value) :
    (∃ types, TypesGiven option types) ∨ ∃ error, TypesFault option error := by
  cases option with
  | none => exact Or.inl ⟨_, .absent⟩
  | some v =>
      cases v with
      | table table =>
          cases hread : Denylist.ofTable table with
          | ok types => exact Or.inl ⟨_, .table hread (Denylist.entries_of_ofTable hread)⟩
          | error reason => exact Or.inr ⟨_, .refused hread⟩
      | _ => exact Or.inr ⟨_, .notATable (by simp [Toml.Value.kind])⟩

theorem denylist_eq (config : Config) :
    denylist config =
      match types? config with
      | none => .ok Denylist.empty
      | some (.table table) => (Denylist.ofTable table).mapError .denylist
      | some _ => .error (.notATable "forbidden-type-usage" "types") := rfl

section option
variable {config : Config}

theorem denylist_of_given {types : Denylist} (h : TypesGiven (types? config) types) :
    denylist config = .ok types := by
  rw [denylist_eq]
  generalize types? config = option at h ⊢
  cases h with
  | absent => rfl
  | table hread _ => simp only [hread, Except.mapError]

theorem denylist_of_fault {error : SetupError} (h : TypesFault (types? config) error) :
    denylist config = .error error := by
  rw [denylist_eq]
  generalize types? config = option at h ⊢
  cases h with
  | @notATable v hkind =>
      cases v with
      | table table => exact absurd rfl hkind
      | _ => rfl
  | refused hread => simp only [hread, Except.mapError]

/-! ### The analyzer -/

theorem analyzer_of_given {types : Denylist} (h : TypesGiven (types? config) types) :
    (analyzer config).value = .ok { rules := [UsageRule.rule types], config } := by
  unfold analyzer rules
  rw [denylist_of_given h]
  rfl

theorem analyzer_of_fault {error : SetupError} (h : TypesFault (types? config) error) :
    (analyzer config).value = .error error := by
  unfold analyzer rules
  rw [denylist_of_fault h]
  rfl

theorem typesGiven_of_analyzer_eq_ok {a : Analyzer} (h : (analyzer config).value = .ok a) :
    ∃ types, TypesGiven (types? config) types ∧ a = { rules := [UsageRule.rule types], config } := by
  rcases typesGiven_or_fault (types? config) with ⟨types, hgiven⟩ | ⟨error, hfault⟩
  · rw [analyzer_of_given hgiven] at h
    cases h
    exact ⟨types, hgiven, rfl⟩
  · rw [analyzer_of_fault hfault] at h
    cases h

variable (config)

theorem analyzer_eq_error_iff (error : SetupError) :
    (analyzer config).value = .error error ↔ TypesFault (types? config) error := by
  refine ⟨fun h => ?_, analyzer_of_fault⟩
  rcases typesGiven_or_fault (types? config) with ⟨types, hgiven⟩ | ⟨error', hfault⟩
  · rw [analyzer_of_given hgiven] at h
    cases h
  · rw [analyzer_of_fault hfault] at h
    cases h
    exact hfault

end option

/-- **From a configuration to violations.**  No analyzer can be set up iff `types` is no table or is
refused as a denylist, and that is decided by this option alone.  Otherwise the analyzer has one
rule, and the violations in a node are its diagnostics for the denylist of the option, attributed to
the rule and the file; there are none if the section switches the rule off. -/
theorem analyzer_outcome (config : Config) :
    (∀ error, (analyzer config).value = .error error ↔ TypesFault (types? config) error) ∧
    (∀ config', types? config' = types? config → ∀ error,
      (analyzer config').value = .error error ↔ (analyzer config).value = .error error) ∧
    ∀ a, (analyzer config).value = .ok a →
      a.ruleCount = 1 ∧
      ∃ types, TypesGiven (types? config) types ∧
        ∀ ctx node, (a.checkNode ⟨ctx, node⟩).value =
          if (config.section? "forbidden-type-usage").bind (·.enabled) = some false then []
          else (UsageRule.check types ctx node).value.map (fun diagnostic =>
            { rule := "forbidden-type-usage", file := ctx.scope.file, diagnostic }) := by
  refine ⟨analyzer_eq_error_iff config, ?_, ?_⟩
  · intro config' htypes error
    rw [analyzer_eq_error_iff, analyzer_eq_error_iff, htypes]
  · intro a ha
    obtain ⟨types, hgiven, rfl⟩ := typesGiven_of_analyzer_eq_ok ha
    exact ⟨rfl, types, hgiven, fun ctx node => UsageRule.checkNode_rule types config ⟨ctx, node⟩⟩

/-- A configured denylist reaches the checks in the order of its table. -/
theorem analyzer_outcome_two_types :
    let config : Config := ⟨[("forbidden-type-usage", { options :=
      [("types", .table [("\\Zeta", .string "old"), ("Alpha", .table [])])] })]⟩
    ∃ a types, (analyzer config).value = .ok a ∧ a.ruleCount = 1 ∧
      types.entries = [{ name := "Zeta", description := "old" }, { name := "Alpha" }] ∧
      ∀ ctx node, (a.checkNode ⟨ctx, node⟩).value =
        (UsageRule.check types ctx node).value.map (fun diagnostic =>
          { rule := "forbidden-type-usage", file := ctx.scope.file, diagnostic }) := by
  intro config
  obtain ⟨a, ha⟩ : ∃ a, (analyzer config).value = .ok a := ⟨_, rfl⟩
  obtain ⟨hcount, types, hgiven, hcheck⟩ := (analyzer_outcome config).2.2 a ha
  refine ⟨a, types, ha, hcount, ?_, hcheck⟩
  cases hgiven with
  | table _ hentries =>
      rw [hentries]
      rfl

/-- A denylist that is no table is an error even where the rule is switched off. -/
example :
    (analyzer ⟨[("forbidden-type-usage",
      { enabled := some false, options := [("types", .boolean true)] })]⟩).value =
      .error (.notATable "forbidden-type-usage" "types") := rfl

end Setup

end TypeAudit
