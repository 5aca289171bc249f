import Mathlib.Logic.Relation
import TypeAudit.ClassGraph

/-! # Ancestors are the strictly reachable classes

`Descends g a b` says that `b` is reached from `a` by one or more parent edges of the graph, which
are those of the first declaration of each class (`Parent`).  Nothing is assumed of the graph: it
may have cycles, classes that are their own parents, repeated parents and parents that are not
declared.

The walk behind `ancestors` marks a class when it takes it from the worklist, so the same class
can wait there several times.  `WalkInvariant` relates the marked classes and the worklist: both
descend from the start, and a parent of a marked class is marked or waits.  A step of the walk
keeps it (`WalkInvariant.skip`, `WalkInvariant.take`), hence so does the whole walk
(`WalkInvariant.run`); once the worklist is empty the marked classes are closed under parents.
With `nodup_walk` and `not_mem_seen_of_mem_walk` this makes the ancestors of a class exactly the
classes other than itself that it descends from (`mem_ancestors_iff`). -/

namespace TypeAudit.ClassGraph

variable (g : ClassGraph)

/-! ### Reachability -/

/-- `b` is a direct parent of `a`: it stands in the first declaration of `a`. -/
def Parent (a b : String) : Prop :=
  ∃ before parents after, g.decls = before ++ ⟨a, parents⟩ :: after ∧
    (∀ d ∈ before, d.name ≠ a) ∧ b ∈ parents

theorem parent_iff (a b : String) : g.Parent a b ↔ b ∈ g.parentsOf a := by
  simp only [mem_parentsOf_iff, find?_eq_some_iff]
  constructor
  · rintro ⟨before, parents, after, hsplit, hfirst, hb⟩
    exact ⟨⟨a, parents⟩, ⟨rfl, before, after, hsplit, hfirst⟩, hb⟩
  · rintro ⟨⟨_, parents⟩, ⟨rfl, before, after, hsplit, hfirst⟩, hb⟩
    exact ⟨before, parents, after, hsplit, hfirst, hb⟩

instance (a b : String) : Decidable (g.Parent a b) :=
  decidable_of_iff (b ∈ g.parentsOf a) (g.parent_iff a b).symm

/-- `b` is reached from `a` by one or more parent edges. -/
def Descends (a b : String) : Prop := Relation.TransGen g.Parent a b

variable {g}

theorem Descends.of_parent {a b : String} (h : b ∈ g.parentsOf a) : g.Descends a b :=
  Relation.TransGen.single ((g.parent_iff a b).mpr h)

theorem Descends.parent {a b c : String} (h : g.Descends a b) (hc : c ∈ g.parentsOf b) :
    g.Descends a c :=
  Relation.TransGen.tail h ((g.parent_iff b c).mpr hc)

theorem Descends.head {a b c : String} (hb : b ∈ g.parentsOf a) (h : g.Descends b c) :
    g.Descends a c :=
  Relation.TransGen.head ((g.parent_iff a b).mpr hb) h

/-- A set of classes closed under parents holds everything its members descend from. -/
theorem Descends.mem_of_closed {marked : List String}
    (hclosed : ∀ a ∈ marked, ∀ b ∈ g.parentsOf a, b ∈ marked) {a b : String} (ha : a ∈ marked)
    (h : g.Descends a b) : b ∈ marked := by
  induction h with
  | single hb => exact hclosed a ha _ ((g.parent_iff _ _).mp hb)
  | tail _ hb ih => exact hclosed _ ih _ ((g.parent_iff _ _).mp hb)

/-! ### The invariant of the walk -/

variable (g)

/-- What holds of the marked classes and the worklist while the walk from `start` goes on. -/
structure WalkInvariant (start : String) (seen pending : List String) : Prop where
  start_mem : start ∈ seen
  seen_descends : ∀ a ∈ seen, a = start ∨ g.Descends start a
  pending_descends : ∀ a ∈ pending, g.Descends start a
  frontier : ∀ a ∈ seen, ∀ b ∈ g.parentsOf a, b ∈ seen ∨ b ∈ pending

namespace WalkInvariant

theorem init (start : String) : g.WalkInvariant start [start] (g.parentsOf start) := by
  refine ⟨List.mem_singleton_self _, ?_, fun a ha => Descends.of_parent ha, ?_⟩
  · intro a ha
    exact Or.inl (List.mem_singleton.mp ha)
  · intro a ha b hb
    rw [List.mem_singleton.mp ha] at hb
    exact Or.inr hb

variable {g} {start name : String} {seen pending : List String}

/-- A class that is marked already leaves the worklist without a trace. -/
theorem skip (h : g.WalkInvariant start seen (name :: pending)) (hname : name ∈ seen) :
    g.WalkInvariant start seen pending := by
  refine ⟨h.start_mem, h.seen_descends,
    fun a ha => h.pending_descends a (List.mem_cons_of_mem _ ha), ?_⟩
  intro a ha b hb
  rcases h.frontier a ha b hb with hs | hp
  · exact Or.inl hs
  · rcases List.mem_cons.mp hp with rfl | hp
    · exact Or.inl hname
    · exact Or.inr hp

/-- A class is marked and its parents go to the worklist. -/
theorem take (h : g.WalkInvariant start seen (name :: pending)) :
    g.WalkInvariant start (name :: seen) (g.parentsOf name ++ pending) := by
  have hname : g.Descends start name := h.pending_descends name List.mem_cons_self
  refine ⟨List.mem_cons_of_mem _ h.start_mem, ?_, ?_, ?_⟩
  · intro a ha
    rcases List.mem_cons.mp ha with rfl | ha
    · exact Or.inr hname
    · exact h.seen_descends a ha
  · intro a ha
    rcases List.mem_append.mp ha with ha | ha
    · exact hname.parent ha
    · exact h.pending_descends a (List.mem_cons_of_mem _ ha)
  · intro a ha b hb
    rcases List.mem_cons.mp ha with rfl | ha
    · exact Or.inr (List.mem_append_left _ hb)
    · rcases h.frontier a ha b hb with hs | hp
      · exact Or.inl (List.mem_cons_of_mem _ hs)
      · rcases List.mem_cons.mp hp with rfl | hp
        · exact Or.inl List.mem_cons_self
        · exact Or.inr (List.mem_append_right _ hp)

/-- At the end of the walk the classes it met are marked and nothing waits. -/
theorem run (h : g.WalkInvariant start seen pending) :
    g.WalkInvariant start ((g.walk seen pending).reverse ++ seen) [] := by
  fun_induction walk g seen pending with
  | case1 seen => simpa using h
  | case2 seen name pending hname ih => exact ih (h.skip hname)
  | case3 seen name pending hname ih => simpa using ih h.take

/-- With an empty worklist the marked classes are those the start descends from, and itself. -/
theorem mem_seen_iff (h : g.WalkInvariant start seen []) (a : String) :
    a ∈ seen ↔ a = start ∨ g.Descends start a := by
  constructor
  · exact h.seen_descends a
  · rintro (rfl | ha)
    · exact h.start_mem
    · refine Descends.mem_of_closed ?_ h.start_mem ha
      intro c hc b hb
      rcases h.frontier c hc b hb with hs | hp
      · exact hs
      · exact absurd hp List.not_mem_nil

end WalkInvariant

/-! ### What the walk lists -/

theorem not_mem_seen_of_mem_walk (seen pending : List String) :
    ∀ a ∈ g.walk seen pending, a ∉ seen := by
  fun_induction walk g seen pending with
  | case1 seen => simp
  | case2 seen name pending hname ih => exact ih
  | case3 seen name pending hname ih =>
      intro a ha hs
      rcases List.mem_cons.mp ha with rfl | ha
      · exact hname hs
      · exact ih a ha (List.mem_cons_of_mem _ hs)

theorem nodup_walk (seen pending : List String) : (g.walk seen pending).Nodup := by
  fun_induction walk g seen pending with
  | case1 seen => exact List.nodup_nil
  | case2 seen name pending hname ih => exact ih
  | case3 seen name pending hname ih =>
      refine List.nodup_cons.mpr ⟨?_, ih⟩
      intro hmem
      exact g.not_mem_seen_of_mem_walk _ _ name hmem List.mem_cons_self

/-! ### Ancestors -/

theorem not_mem_ancestors_self (name : String) : name ∉ g.ancestors name := by
  intro h
  exact g.not_mem_seen_of_mem_walk _ _ name h (List.mem_singleton_self name)

/-- The ancestors of a class are the other classes it descends from. -/
theorem mem_ancestors_iff (name a : String) :
    a ∈ g.ancestors name ↔ a ≠ name ∧ g.Descends name a := by
  have hfinal := (WalkInvariant.init g name).run.mem_seen_iff a
  rw [List.mem_append, List.mem_reverse, List.mem_singleton] at hfinal
  constructor
  · intro h
    have hne : a ≠ name := fun e => g.not_mem_ancestors_self name (e ▸ h)
    exact ⟨hne, (hfinal.mp (Or.inl h)).resolve_left hne⟩
  · rintro ⟨hne, h⟩
    exact (hfinal.mpr (Or.inr h)).resolve_right hne

theorem isSubclass_iff (name ancestor : String) :
    g.toHierarchy.isSubclass name ancestor = true ↔
      ancestor ≠ name ∧ g.Descends name ancestor := by
  rw [← g.mem_ancestors_iff]
  exact List.contains_iff_mem

/-- **Ancestors are strict reachability**, in every graph: each once, never the class itself,
and exactly the other classes that one or more parent edges lead to. -/
theorem ancestors_strictly_reachable (name : String) :
    (g.ancestors name).Nodup ∧ name ∉ g.ancestors name ∧
      (∀ a, a ∈ g.ancestors name ↔ a ≠ name ∧ Relation.TransGen g.Parent name a) ∧
      ∀ c a, g.toHierarchy.isSubclass c a = true ↔ a ≠ c ∧ Relation.TransGen g.Parent c a :=
  ⟨g.nodup_walk _ _, g.not_mem_ancestors_self name, g.mem_ancestors_iff name, g.isSubclass_iff⟩

end TypeAudit.ClassGraph
