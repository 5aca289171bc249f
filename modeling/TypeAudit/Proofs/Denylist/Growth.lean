import TypeAudit.Proofs.ClassGraph.Declarations
import TypeAudit.Proofs.Denylist.Precedence

/-! # Matches in a growing class graph

A graph `Extends` another if it declares all its classes, each with at least the same parents; it
may have more classes and more edges, in any order.  The two walks for a class can then meet other
classes in another order, and new edges can close cycles, but what was reached is still reached
(`Extends.descends`).

A lookup asks the graph only whether something is declared and whether something is reached.  So an
entry that inherits to a name still does after the graph has grown (`inherits_of_extends`), and no
denied name is allowed because more is known (`denials_survive_growth`). -/

namespace TypeAudit

/-! ### Growing graphs -/

namespace ClassGraph

/-- Every class of `g` is declared in `g'` too, with at least the same parents. -/
def Extends (g g' : ClassGraph) : Prop :=
  ∀ name d, g.find? name = some d → ∃ d', g'.find? name = some d' ∧ d.parents ⊆ d'.parents

/-- A class can be declared for the first time, or again with more parents. -/
theorem extends_declare {g : ClassGraph} {c : String} {parents : List String}
    (h : g.parentsOf c ⊆ parents) : g.Extends (g.declare c parents) := by
  intro name d hd
  rw [find?_declare]
  split_ifs with hname
  · have hparents : g.parentsOf c = d.parents := by
      unfold parentsOf
      rw [← hname, hd]
    exact ⟨_, rfl, hparents ▸ h⟩
  · exact ⟨d, hd, List.Subset.refl _⟩

namespace Extends

variable {g g' : ClassGraph} (h : g.Extends g')
include h

theorem hasClass {name : String} (hclass : g.hasClass name = true) : g'.hasClass name = true := by
  obtain ⟨d, hd⟩ := Option.isSome_iff_exists.mp hclass
  obtain ⟨d', hd', _⟩ := h name d hd
  exact Option.isSome_iff_exists.mpr ⟨d', hd'⟩

theorem parent {a b : String} (hparent : g.Parent a b) : g'.Parent a b := by
  rw [parent_iff, mem_parentsOf_iff] at hparent ⊢
  obtain ⟨d, hd, hb⟩ := hparent
  obtain ⟨d', hd', hsub⟩ := h a d hd
  exact ⟨d', hd', hsub hb⟩

theorem descends {a b : String} (hdescends : g.Descends a b) : g'.Descends a b :=
  Relation.TransGen.mono (fun _ _ => h.parent) _ _ hdescends

theorem isSubclass {name ancestor : String}
    (hsub : g.toHierarchy.isSubclass name ancestor = true) :
    g'.toHierarchy.isSubclass name ancestor = true := by
  rw [isSubclass_iff] at hsub ⊢
  exact ⟨hsub.1, h.descends hsub.2⟩

end Extends

end ClassGraph

/-! ### Lookups -/

namespace Denylist

theorem mem_of_get? {d : Denylist} {name : String} {e : Entry} (h : d.get? name = some e) :
    e ∈ d.entries := by
  obtain ⟨i, _, hi⟩ := Option.bind_eq_some_iff.mp h
  exact List.mem_of_getElem? hi

/-- Where the name has an entry, the hierarchy has no part in the answer. -/
theorem find_of_get?_isSome {d : Denylist} {name : String} (hget : (d.get? name).isSome = true)
    (h h' : Hierarchy) (usage : Usage) :
    (d.find h' name usage).value = (d.find h name usage).value := by
  obtain ⟨own, hown⟩ := Option.isSome_iff_exists.mp hget
  rw [find_value, find_value, hown]

section growth
variable {d : Denylist} {g g' : ClassGraph} (h : g.Extends g') {name : String} {usage : Usage}
  {e : Entry}
include h

theorem inherits_of_extends (hinherits : inherits g.toHierarchy name usage e = true) :
    inherits g'.toHierarchy name usage e = true := by
  unfold inherits at hinherits ⊢
  simp only [Bool.and_eq_true] at hinherits ⊢
  obtain ⟨⟨happlies, hclass⟩, hsub⟩ := hinherits
  exact ⟨⟨happlies, h.hasClass hclass⟩, h.isSubclass hsub⟩

theorem inherited_of_extends
    (hfind : (d.find g.toHierarchy name usage).value = some (.inherited e)) :
    ∃ first, (d.find g'.toHierarchy name usage).value = some (.inherited first) ∧
      d.NoLater first e := by
  obtain ⟨hget, hclass, hfirst⟩ := find_eq_inherited_iff.mp hfind
  exact exists_inherited hget (h.hasClass hclass) (List.mem_of_find?_eq_some hfirst)
    (inherits_of_extends h (List.find?_some hfirst))

end growth

/-- **Denials survive the growth of the class graph.**  Let a graph declare all classes of another
with at least the same parents.  Then what was a class or a subclass is one still.  A name with an
entry of its own gets the same answer, and every name that was denied is denied, by the same entry
or by one before it. -/
theorem denials_survive_growth {g g' : ClassGraph} (h : g.Extends g') :
    (∀ name, g.hasClass name = true → g'.hasClass name = true) ∧
    (∀ name ancestor, g.toHierarchy.isSubclass name ancestor = true →
      g'.toHierarchy.isSubclass name ancestor = true) ∧
    ∀ (d : Denylist) (name : String) (usage : Usage),
      ((d.get? name).isSome = true →
        (d.find g'.toHierarchy name usage).value = (d.find g.toHierarchy name usage).value) ∧
      (∀ e, (d.find g'.toHierarchy name usage).value = some (.exact e) ↔
        (d.find g.toHierarchy name usage).value = some (.exact e)) ∧
      ∀ m, (d.find g.toHierarchy name usage).value = some m →
        ∃ m', (d.find g'.toHierarchy name usage).value = some m' ∧ d.NoLater m'.entry m.entry := by
  refine ⟨fun name => h.hasClass, fun name ancestor => h.isSubclass, ?_⟩
  intro d name usage
  have hexact : ∀ e, (d.find g'.toHierarchy name usage).value = some (.exact e) ↔
      (d.find g.toHierarchy name usage).value = some (.exact e) := fun e =>
    find_eq_exact_iff.trans find_eq_exact_iff.symm
  refine ⟨fun hget => find_of_get?_isSome hget _ _ usage, hexact, ?_⟩
  intro m hfind
  cases m with
  | exact e =>
      have hmem : e ∈ d.entries := mem_of_get? (find_eq_exact_iff.mp hfind).1
      exact ⟨.exact e, (hexact e).mpr hfind, hmem, hmem, Nat.le_refl _⟩
  | inherited e =>
      obtain ⟨first, hfirst, hplace⟩ := inherited_of_extends h hfind
      exact ⟨.inherited first, hfirst, hplace⟩

/-- A class gets parents that close a cycle and lead to an entry further up in the configuration. -/
theorem denials_survive_growth_cycle :
    let g : ClassGraph := ⟨[⟨"N", ["A"]⟩, ⟨"A", []⟩, ⟨"B", []⟩]⟩
    let a : Entry := { name := "A", withSubclasses := true }
    let b : Entry := { name := "B", withSubclasses := true }
    let d : Denylist := ⟨[b, a], [("A", 1), ("B", 0)]⟩
    g.Extends (g.declare "A" ["N", "B"]) ∧
      (d.find g.toHierarchy "N" .structural).value = some (.inherited a) ∧
      (d.find (g.declare "A" ["N", "B"]).toHierarchy "N" .structural).value =
        some (.inherited b) ∧ d.NoLater b a := by
  intro g a b d
  have hgrown : g.Extends (g.declare "A" ["N", "B"]) := ClassGraph.extends_declare (by decide)
  have hchain : g.ancestors "N" = ["A"] := by cbv
  have hchain' : (g.declare "A" ["N", "B"]).ancestors "N" = ["A", "B"] := by cbv
  have hbare : TypeName.bare "N" = "N" := by decide
  have hfind : (d.find g.toHierarchy "N" .structural).value = some (.inherited a) := by
    rw [find_eq_inherited_iff, hbare]
    refine ⟨by decide, by decide, ?_⟩
    unfold inherits Hierarchy.isSubclass
    simp only [ClassGraph.toHierarchy, hchain]
    decide
  have hfind' : (d.find (g.declare "A" ["N", "B"]).toHierarchy "N" .structural).value =
      some (.inherited b) := by
    rw [find_eq_inherited_iff, hbare]
    refine ⟨by decide, by decide, ?_⟩
    unfold inherits Hierarchy.isSubclass
    simp only [ClassGraph.toHierarchy, hchain']
    decide
  obtain ⟨m', hm', hplace⟩ :=
    ((denials_survive_growth hgrown).2.2 d "N" .structural).2.2 _ hfind
  rw [hfind'] at hm'
  cases hm'
  exact ⟨hgrown, hfind, hfind', hplace⟩

end Denylist

end TypeAudit
