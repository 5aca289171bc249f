import TypeAudit.Hierarchy

/-! # Class graphs

A class graph lists the declared classes with their direct parents.  A later declaration of a
class replaces the earlier one, parents need not be declared, and cycles are allowed.

`ancestors` walks the graph depth first along the first parent, so that the chain of first
parents comes first.  A class is marked when it is taken from the worklist: it appears once,
and the class the walk started from does not appear.  The walk ends because every step either
marks a declared class or shortens the worklist (`walk_progress`). -/

namespace TypeAudit

/-- A class with its direct parents, the extended class first. -/
structure ClassDecl where
  name : String
  parents : List String
deriving DecidableEq, Repr

/-- The declared classes. -/
structure ClassGraph where
  decls : List ClassDecl := []
deriving DecidableEq, Repr

namespace ClassGraph

/-- Declare a class; an earlier declaration of the same name is forgotten. -/
def declare (g : ClassGraph) (name : String) (parents : List String) : ClassGraph :=
  ⟨⟨name, parents⟩ :: g.decls.filter (fun d => !(d.name == name))⟩

def size (g : ClassGraph) : Nat := g.decls.length

def isEmpty (g : ClassGraph) : Bool := g.decls.isEmpty

/-- The declaration of a class. -/
def find? (g : ClassGraph) (name : String) : Option ClassDecl :=
  g.decls.find? (fun d => d.name == name)

/-- The declaration of a class is the first with its name. -/
theorem find?_eq_some_iff {g : ClassGraph} {name : String} {d : ClassDecl} :
    g.find? name = some d ↔ d.name = name ∧
      ∃ before after, g.decls = before ++ d :: after ∧ ∀ e ∈ before, e.name ≠ name := by
  unfold find?
  rw [List.find?_eq_some_iff_append]
  simp only [beq_iff_eq, Bool.not_eq_eq_eq_not, Bool.not_true, beq_eq_false_iff_ne]

/-- The class is declared. -/
def hasClass (g : ClassGraph) (name : String) : Bool := (g.find? name).isSome

/-- The direct parents of a class; an undeclared class has none. -/
def parentsOf (g : ClassGraph) (name : String) : List String :=
  match g.find? name with
  | some d => d.parents
  | none => []

theorem mem_parentsOf_iff {g : ClassGraph} {name parent : String} :
    parent ∈ g.parentsOf name ↔ ∃ d, g.find? name = some d ∧ parent ∈ d.parents := by
  unfold parentsOf
  cases g.find? name <;> simp

/-- The parents of a class are those of its first declaration. -/
theorem parentsOf_eq (g : ClassGraph) (name : String) :
    g.parentsOf name = ((g.decls.filter (·.name = name)).take 1).flatMap (·.parents) := by
  have hfirst : (g.decls.filter (·.name = name)).take 1 = (g.find? name).toList := by
    rw [List.take_one, List.head?_filter]
    rfl
  rw [hfirst, parentsOf]
  cases g.find? name <;> simp

/-- Number of declarations whose class is not marked. -/
def unseen (g : ClassGraph) (seen : List String) : Nat :=
  g.decls.countP (fun d => !seen.contains d.name)

theorem unseen_le (g : ClassGraph) (seen : List String) (name : String) :
    g.unseen (name :: seen) ≤ g.unseen seen := by
  apply List.countP_mono_left
  intro d _ h
  simp_all

/-- Marking a declared class leaves fewer classes to mark. -/
theorem unseen_lt (g : ClassGraph) {seen : List String} {name : String} {d : ClassDecl}
    (hd : g.find? name = some d) (hs : name ∉ seen) :
    g.unseen (name :: seen) < g.unseen seen := by
  obtain ⟨hname, before, after, hsplit, _⟩ := find?_eq_some_iff.mp hd
  have hle : ∀ ds : List ClassDecl,
      ds.countP (fun d => !(name :: seen).contains d.name) ≤
        ds.countP (fun d => !seen.contains d.name) :=
    fun ds => List.countP_mono_left (fun d _ h => by simp_all)
  have hb := hle before
  have ha := hle after
  have hnew : (!(name :: seen).contains d.name) = false := by simp [hname]
  have hold : (!seen.contains d.name) = true := by simp [hname, hs]
  unfold unseen
  rw [hsplit, List.countP_append, List.countP_append, List.countP_cons, List.countP_cons,
    hnew, hold]
  simp only [if_true, Bool.false_eq_true, if_false]
  omega

/-- Taking an unmarked class from the worklist and putting its parents there makes progress. -/
theorem walk_progress (g : ClassGraph) {seen : List String} {name : String}
    (pending : List String) (hs : name ∉ seen) :
    Prod.Lex (· < ·) (· < ·)
      (g.unseen (name :: seen), (g.parentsOf name ++ pending).length)
      (g.unseen seen, (name :: pending).length) := by
  cases hd : g.find? name with
  | some d => exact Prod.Lex.left _ _ (g.unseen_lt hd hs)
  | none =>
    have hlen : (g.parentsOf name ++ pending).length < (name :: pending).length := by
      simp [parentsOf, hd]
    rcases Nat.lt_or_ge (g.unseen (name :: seen)) (g.unseen seen) with h | h
    · exact Prod.Lex.left _ _ h
    · rw [Nat.le_antisymm (g.unseen_le seen name) h]
      exact Prod.Lex.right _ hlen

/-- The classes met from the worklist `pending`, without those in `seen`. -/
def walk (g : ClassGraph) (seen : List String) : List String → List String
  | [] => []
  | name :: pending =>
    if name ∈ seen then walk g seen pending
    else name :: walk g (name :: seen) (g.parentsOf name ++ pending)
termination_by pending => (g.unseen seen, pending.length)
decreasing_by
  · exact Prod.Lex.right _ (Nat.lt_succ_self _)
  · exact g.walk_progress pending ‹_›

/-- The ancestors of a class, along the first parent first. -/
def ancestors (g : ClassGraph) (name : String) : List String :=
  g.walk [name] (g.parentsOf name)

/-- The graph as a host's hierarchy. -/
def toHierarchy (g : ClassGraph) : Hierarchy := ⟨g.hasClass, g.ancestors⟩

end ClassGraph

end TypeAudit
