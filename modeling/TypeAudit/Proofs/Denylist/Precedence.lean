import TypeAudit.Proofs.Denylist.Matching
import TypeAudit.Proofs.Denylist.Representation

/-! # Which entry denies a name

A name that has no entry of its own is denied by the first entry that inherits to it.  `NoLater`
compares two entries by their places in the configuration, and `exists_inherited` is the form in
which the rule is used below: one entry that inherits to a name is enough for the name to be denied,
by that entry or by one before it.

* `descendants_denied`: an entry with subclasses reaches everything below the names it denies.  In
  a graph with cycles a class can descend from itself, but never from the name of an entry that
  would be its own.
* `structural_matches_subset`: a structural use goes by fewer entries than a type hint, namely by
  those that are not for type hints only (`inherits_structural_iff`).  Leaving entries out can put
  off the first that inherits, and never brings it forward. -/

namespace TypeAudit

namespace Denylist

/-! ### Places in the configuration -/

/-- The denylist holds both entries, and the first of them stands at or before the second. -/
structure NoLater (d : Denylist) (e e' : Entry) : Prop where
  mem : e ∈ d.entries
  other_mem : e' ∈ d.entries
  place_le : d.entries.idxOf e ≤ d.entries.idxOf e'

section places
variable {d : Denylist} {e e' : Entry}

theorem NoLater.antisymm (h : d.NoLater e e') (h' : d.NoLater e' e) : e = e' :=
  (List.idxOf_inj h.mem).mp (Nat.le_antisymm h.place_le h'.place_le)

/-- The first entry with a property stands at or before every other with it. -/
theorem noLater_of_find? {p : Entry → Bool} (hfirst : d.entries.find? p = some e)
    (hmem : e' ∈ d.entries) (hp : p e' = true) : d.NoLater e e' := by
  refine ⟨List.mem_of_find?_eq_some hfirst, hmem, ?_⟩
  obtain ⟨hpe, before, after, hsplit, hbefore⟩ := List.find?_eq_some_iff_append.mp hfirst
  have hnot : ∀ a, p a = true → a ∉ before := by
    intro a ha hin
    have hfalse := hbefore a hin
    rw [ha] at hfalse
    cases hfalse
  rw [hsplit, List.idxOf_append_of_notMem (hnot e hpe), List.idxOf_append_of_notMem (hnot e' hp),
    List.idxOf_cons_self]
  omega

end places

/-! ### The two kinds of matches -/

section kinds
variable {d : Denylist} {h : Hierarchy} {name : String} {usage : Usage} {e : Entry}

theorem find_eq_exact_iff :
    (d.find h name usage).value = some (.exact e) ↔
      d.get? name = some e ∧ e.appliesTo usage = true := by
  rw [find_value]
  cases d.get? name with
  | some own =>
      dsimp only
      split_ifs with happly
      · simp only [Option.some.injEq, Match.exact.injEq]
        exact ⟨fun heq => ⟨heq, heq ▸ happly⟩, fun heq => heq.1⟩
      · simp only [Option.some.injEq, false_iff, not_and]
        exact fun heq => heq ▸ happly
  | none => split_ifs <;> simp

theorem find_eq_inherited_iff :
    (d.find h name usage).value = some (.inherited e) ↔
      d.get? name = none ∧ h.hasClass (TypeName.bare name) = true ∧
        d.entries.find? (inherits h (TypeName.bare name) usage) = some e := by
  rw [find_value]
  cases d.get? name with
  | some own => split_ifs <;> simp
  | none => split_ifs with hclass <;> simp [hclass]

/-- One entry that inherits to a name denies it, or an entry before it does. -/
theorem exists_inherited (hget : d.get? name = none)
    (hclass : h.hasClass (TypeName.bare name) = true) (hmem : e ∈ d.entries)
    (hinherits : inherits h (TypeName.bare name) usage e = true) :
    ∃ first, (d.find h name usage).value = some (.inherited first) ∧ d.NoLater first e := by
  cases hfirst : d.entries.find? (inherits h (TypeName.bare name) usage) with
  | none => exact absurd hinherits (List.find?_eq_none.mp hfirst e hmem)
  | some first =>
      exact ⟨first, find_eq_inherited_iff.mpr ⟨hget, hclass, hfirst⟩,
        noLater_of_find? hfirst hmem hinherits⟩

end kinds

/-! ### Descendants -/

section descendants
variable {g : ClassGraph} {usage : Usage} {e : Entry} {y z : String}

/-- What inherits to a class inherits to the classes below it. -/
theorem Inherits.below (hy : Inherits g y usage e) (hz : g.Descends z y) :
    Inherits g z usage e :=
  ⟨hy.withSubclasses, hy.applies, hy.declared, hz.trans hy.descends⟩

/-- An entry that denies a declared class, on its own account with subclasses or by inheritance,
inherits to the classes below it. -/
theorem WellFormed.inherits_below {d : Denylist} (hd : d.WellFormed) (hy : TypeName.bare y = y)
    (hclass : g.hasClass y = true) (hz : g.Descends z y)
    (hfind : (d.find g.toHierarchy y usage).value = some (.inherited e) ∨
      (d.find g.toHierarchy y usage).value = some (.exact e) ∧ e.withSubclasses = true) :
    e ∈ d.entries ∧ Inherits g z usage e := by
  rcases hfind with hfind | ⟨hfind, hsub⟩
  · obtain ⟨hget, _, hfirst⟩ := find_eq_inherited_iff.mp hfind
    have hmem : e ∈ d.entries := List.mem_of_find?_eq_some hfirst
    have hne : e.name ≠ y := by
      rw [← hy]
      exact (hd.get?_eq_none_iff y).mp hget e hmem
    have hinherits := List.find?_some hfirst
    rw [hy, inherits_toHierarchy_iff g y usage hne] at hinherits
    exact ⟨hmem, hinherits.below hz⟩
  · obtain ⟨hget, happly⟩ := find_eq_exact_iff.mp hfind
    obtain ⟨hmem, hname⟩ := (hd.get?_eq_some_iff y e).mp hget
    rw [hy] at hname
    subst hname
    exact ⟨hmem, hsub, (e.appliesTo_iff usage).mp happly, hclass, hz⟩

end descendants

/-- **Denying a class with its subclasses reaches all its descendants.**  Let `y` be denied through
an ancestor, or by an entry of its own that denies subclasses.  Then every declared class `z` below
`y` without an entry of its own is denied through an ancestor, by the entry that denies `y` or by
one before it.  The graph may have cycles. -/
theorem descendants_denied {d : Denylist} (hd : d.Built) (g : ClassGraph) (usage : Usage)
    {y z : String} (hy : y.toList.head? ≠ some '\\') (hz : z.toList.head? ≠ some '\\')
    (hyclass : g.hasClass y = true) (hzclass : g.hasClass z = true) (hyz : y ∈ g.ancestors z)
    (hfree : ∀ e ∈ d.entries, e.name ≠ z) {e : Entry}
    (hfind : (d.find g.toHierarchy y usage).value = some (.inherited e) ∨
      (d.find g.toHierarchy y usage).value = some (.exact e) ∧ e.withSubclasses = true) :
    ∃ first, (d.find g.toHierarchy z usage).value = some (.inherited first) ∧
      d.NoLater first e := by
  have hwf := hd.wellFormed
  have hbare : TypeName.bare z = z := (TypeName.bare_eq_self_iff z).mpr hz
  have hdescends : g.Descends z y := ((g.mem_ancestors_iff z y).mp hyz).2
  obtain ⟨hmem, hinherits⟩ := hwf.inherits_below ((TypeName.bare_eq_self_iff y).mpr hy) hyclass
    hdescends hfind
  rw [← inherits_toHierarchy_iff g z usage (hfree e hmem)] at hinherits
  refine exists_inherited ?_ ?_ hmem ?_
  · rw [hwf.get?_eq_none_iff, hbare]
    exact hfree
  · rw [hbare]
    exact hzclass
  · rw [hbare]
    exact hinherits

/-- Two classes that are each other's parent, and a third below the second: the first is denied with
its subclasses, hence the second, hence the third. -/
theorem descendants_denied_cycle :
    let g : ClassGraph := ⟨[⟨"A", ["B"]⟩, ⟨"B", ["A"]⟩, ⟨"C", ["B"]⟩]⟩
    let a : Entry := { name := "A", withSubclasses := true }
    let d : Denylist := ⟨[a], [("A", 0)]⟩
    ofEntries [a] = .ok d ∧ "B" ∈ g.ancestors "C" ∧
      (d.find g.toHierarchy "B" .structural).value = some (.inherited a) ∧
      (d.find g.toHierarchy "C" .structural).value = some (.inherited a) := by
  intro g a d
  have hd : ofEntries [a] = .ok d := by decide
  have hbelow : "B" ∈ g.ancestors "C" :=
    (g.mem_ancestors_iff "C" "B").mpr ⟨by decide, Relation.TransGen.single (by decide)⟩
  have hfind : (d.find g.toHierarchy "B" .structural).value = some (.inherited a) :=
    (ofEntries_eq_ok hd).1.find_of_firstInherits g .structural (by decide) (by decide)
      ⟨[], [], rfl, ⟨rfl, Or.inr rfl, by decide, Relation.TransGen.single (by decide)⟩, by simp⟩
  obtain ⟨first, hfirst, hplace⟩ := descendants_denied (Or.inl ⟨_, hd⟩) g .structural (by decide)
    (by decide) (by decide) (by decide) hbelow (by decide) (Or.inl hfind)
  rw [List.mem_singleton.mp hplace.mem] at hfirst
  exact ⟨hd, hbelow, hfind, hfirst⟩

/-! ### Usages -/

section usages
variable {d : Denylist} {h : Hierarchy} {name : String} {e e' : Entry}

/-- A structural use leaves out the entries for type hints only. -/
theorem inherits_structural_iff :
    inherits h name .structural e = true ↔
      inherits h name .typeHint e = true ∧ e.typeHintOnly = false := by
  unfold inherits
  cases hhint : e.typeHintOnly <;> simp [Entry.appliesTo, hhint]

/-- A structural match through an ancestor is one for type hints too, by the same entry or by an
earlier one that is for type hints only. -/
theorem inherited_typeHint_of_structural
    (hfind : (d.find h name .structural).value = some (.inherited e)) :
    ∃ first, (d.find h name .typeHint).value = some (.inherited first) ∧ d.NoLater first e ∧
      (first.typeHintOnly = false → first = e) := by
  obtain ⟨hget, hclass, hstructural⟩ := find_eq_inherited_iff.mp hfind
  have hinherits := (inherits_structural_iff.mp (List.find?_some hstructural)).1
  obtain ⟨first, hfirst, hplace⟩ :=
    exists_inherited hget hclass (List.mem_of_find?_eq_some hstructural) hinherits
  refine ⟨first, hfirst, hplace, ?_⟩
  intro hhint
  have hstill : inherits h (TypeName.bare name) .structural first = true :=
    inherits_structural_iff.mpr ⟨List.find?_some (find_eq_inherited_iff.mp hfirst).2.2, hhint⟩
  exact hplace.antisymm (noLater_of_find? hstructural hplace.mem hstill)

/-- The first entry that inherits in a type hint stays the first in a structural use, unless it is
one of those left out. -/
theorem inherited_structural_of_typeHint
    (hfind : (d.find h name .typeHint).value = some (.inherited e))
    (hhint : e.typeHintOnly = false) :
    (d.find h name .structural).value = some (.inherited e) := by
  obtain ⟨hget, hclass, htypeHint⟩ := find_eq_inherited_iff.mp hfind
  obtain ⟨first, hfirst, hplace⟩ := exists_inherited hget hclass
    (List.mem_of_find?_eq_some htypeHint)
    (inherits_structural_iff.mpr ⟨List.find?_some htypeHint, hhint⟩)
  have hstill : inherits h (TypeName.bare name) .typeHint first = true :=
    (inherits_structural_iff.mp (List.find?_some (find_eq_inherited_iff.mp hfirst).2.2)).1
  rw [hplace.antisymm (noLater_of_find? htypeHint hplace.mem hstill)] at hfirst
  exact hfirst

end usages

/-- **Structural matches are type hint matches.**  A name that is denied in a structural use by its
own entry is denied in a type hint by that entry.  One that is denied through an ancestor is denied
so in a type hint too, by the same entry or by an earlier one for type hints only.  Conversely a
match in a type hint whose entry is not for type hints only is the match in a structural use. -/
theorem structural_matches_subset (d : Denylist) (h : Hierarchy) (name : String) :
    (∀ e, (d.find h name .structural).value = some (.exact e) →
      (d.find h name .typeHint).value = some (.exact e)) ∧
    (∀ e, (d.find h name .structural).value = some (.inherited e) →
      ∃ first, (d.find h name .typeHint).value = some (.inherited first) ∧ d.NoLater first e ∧
        (first.typeHintOnly = false → first = e)) ∧
    ∀ m, (d.find h name .typeHint).value = some m → m.entry.typeHintOnly = false →
      (d.find h name .structural).value = some m := by
  refine ⟨?_, fun e => inherited_typeHint_of_structural, ?_⟩
  · intro e hfind
    exact find_eq_exact_iff.mpr ⟨(find_eq_exact_iff.mp hfind).1, rfl⟩
  · intro m hfind hhint
    cases m with
    | exact e =>
        have hget := (find_eq_exact_iff.mp hfind).1
        exact find_eq_exact_iff.mpr ⟨hget, (e.appliesTo_iff _).mpr (Or.inr hhint)⟩
    | inherited e => exact inherited_structural_of_typeHint hfind hhint

/-- The first of two denied ancestors is for type hints only. -/
theorem structural_matches_subset_two_ancestors :
    let h : Hierarchy := ⟨fun _ => true, fun _ => ["A", "B"]⟩
    let a : Entry := { name := "A", typeHintOnly := true, withSubclasses := true }
    let b : Entry := { name := "B", withSubclasses := true }
    let d : Denylist := ⟨[a, b], [("B", 1), ("A", 0)]⟩
    (d.find h "N" .structural).value = some (.inherited b) ∧
      (d.find h "N" .typeHint).value = some (.inherited a) ∧ d.NoLater a b := by
  intro h a b d
  have hfind : (d.find h "N" .structural).value = some (.inherited b) := by decide
  have hother : (d.find h "N" .typeHint).value = some (.inherited a) := by decide
  obtain ⟨first, hfirst, hplace, _⟩ := (structural_matches_subset d h "N").2.1 b hfind
  rw [hother] at hfirst
  cases hfirst
  exact ⟨hfind, hother, hplace⟩

end Denylist

end TypeAudit
