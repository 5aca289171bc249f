import TypeAudit.ClassGraph

/-! # Ancestors come in recursive preorder

The walk behind `ancestors` keeps a worklist and marks a class when it takes it from there.  A
*tour* says the same by recursion: it goes through some parents from left to right, passes over
those that are visited already, and otherwise visits the parent, then everything above it, then
the next sibling.  The visited classes are handed on from each of these to the next.

The walk over some parents followed by a worklist is the tour of the parents followed by the walk
over the rest of the worklist (`walk_append`), so the ancestors of a class are its preorder.  The
classes met by following the first parent again and again (`lineage`) come first among them. -/

namespace TypeAudit.ClassGraph

variable (g : ClassGraph)

/-! ### Tours -/

/-- What a tour that starts with the visited classes `seen` comes back with. -/
structure Tour (seen : List String) where
  /-- The classes met, each before those above it. -/
  classes : List String
  /-- The classes visited so far. -/
  visited : List String
  keeps : ∀ a ∈ seen, a ∈ visited

theorem unseen_mono {seen visited : List String} (h : ∀ a ∈ seen, a ∈ visited) :
    g.unseen visited ≤ g.unseen seen := by
  apply List.countP_mono_left
  intro d _ hd
  simp only [Bool.not_eq_true', List.contains_eq_mem, decide_eq_false_iff_not] at hd ⊢
  exact fun hmem => hd (h d.name hmem)

/-- Going up from an unvisited class makes progress, whatever its siblings. -/
theorem above_progress {seen : List String} {name : String} (siblings : List String)
    (hs : name ∉ seen) :
    Prod.Lex (· < ·) (· < ·)
      (g.unseen (name :: seen), (g.parentsOf name).length)
      (g.unseen seen, (name :: siblings).length) := by
  have h := g.walk_progress [] hs
  rw [List.append_nil] at h
  rcases Prod.lex_def.mp h with hlt | ⟨heq, hlen⟩
  · exact Prod.Lex.left _ _ hlt
  · refine Prod.lex_def.mpr (Or.inr ⟨heq, ?_⟩)
    simp only [List.length_cons, List.length_nil] at hlen ⊢
    omega

/-- Going on to the siblings makes progress, since no visited class is forgotten. -/
theorem siblings_progress {seen visited : List String} (h : ∀ a ∈ seen, a ∈ visited)
    (name : String) (siblings : List String) :
    Prod.Lex (· < ·) (· < ·)
      (g.unseen visited, siblings.length) (g.unseen seen, (name :: siblings).length) := by
  rcases Nat.lt_or_eq_of_le (g.unseen_mono h) with hlt | heq
  · exact Prod.Lex.left _ _ hlt
  · exact Prod.lex_def.mpr (Or.inr ⟨heq, Nat.lt_succ_self _⟩)

/-- The tour of some parents, from left to right. -/
def tour (seen : List String) : List String → Tour seen
  | [] => ⟨[], seen, fun _ ha => ha⟩
  | name :: siblings =>
    if _hs : name ∈ seen then tour seen siblings
    else
      let above := tour (name :: seen) (g.parentsOf name)
      let beside := tour above.visited siblings
      ⟨name :: above.classes ++ beside.classes, beside.visited,
        fun a ha => beside.keeps a (above.keeps a (List.mem_cons_of_mem _ ha))⟩
termination_by parents => (g.unseen seen, parents.length)
decreasing_by
  · exact Prod.Lex.right _ (Nat.lt_succ_self _)
  · exact g.above_progress siblings _hs
  · exact g.siblings_progress (fun a ha => above.keeps a (List.mem_cons_of_mem _ ha)) name siblings

/-- The classes above a class in preorder, starting with the class itself visited. -/
def preorder (name : String) : List String := (g.tour [name] (g.parentsOf name)).classes

/-! ### The walk is a tour -/

/-- Parents on the worklist are toured before anything behind them is looked at. -/
theorem walk_append (seen parents pending : List String) :
    g.walk seen (parents ++ pending) =
      (g.tour seen parents).classes ++ g.walk (g.tour seen parents).visited pending := by
  fun_induction tour g seen parents generalizing pending with
  | case1 seen => rfl
  | case2 seen name siblings hs ih => rw [List.cons_append, walk, if_pos hs, ih]
  | case3 seen name siblings hs above beside ihAbove ihBeside =>
      rw [List.cons_append, walk, if_neg hs, ihAbove, ihBeside]
      simp only [List.cons_append, List.append_assoc]
      rfl

theorem ancestors_eq_preorder (name : String) : g.ancestors name = g.preorder name := by
  have h := g.walk_append [name] (g.parentsOf name) []
  rw [List.append_nil, walk, List.append_nil] at h
  exact h

/-! ### The chain of first parents -/

/-- The classes met from `name` by following the first parent again and again, up to a class that
has no parents or whose first parent is in `seen` or was met before. -/
def lineage (seen : List String) (name : String) : List String :=
  match _hp : g.parentsOf name with
  | [] => []
  | first :: _ => if _hs : first ∈ seen then [] else first :: lineage (first :: seen) first
termination_by (g.unseen seen, (g.parentsOf name).length)
decreasing_by
  rw [_hp]
  exact g.above_progress _ _hs

theorem lineage_prefix_walk (seen pending : List String) (name : String) :
    g.lineage seen name <+: g.walk seen (g.parentsOf name ++ pending) := by
  fun_induction lineage g seen name generalizing pending with
  | case1 seen name hp => exact List.nil_prefix
  | case2 seen name first others hp hs => exact List.nil_prefix
  | case3 seen name first others hp hs ih =>
      rw [hp, List.cons_append, walk, if_neg hs, List.prefix_cons_inj]
      exact ih (others ++ pending)

/-- **Ancestors come in recursive preorder**, in every graph.  In particular the chain of first
parents, up to the first class without parents or just before the first class that repeats, comes
before all other ancestors.  The parents that both go through are those of the first declaration of
a class, and none for a class that is not declared. -/
theorem ancestors_preorder (name : String) :
    (∀ c, g.parentsOf c = ((g.decls.filter (·.name = c)).take 1).flatMap (·.parents)) ∧
    g.ancestors name = g.preorder name ∧ g.lineage [name] name <+: g.ancestors name := by
  refine ⟨g.parentsOf_eq, g.ancestors_eq_preorder name, ?_⟩
  have h := g.lineage_prefix_walk [name] [] name
  rwa [List.append_nil] at h

end TypeAudit.ClassGraph
