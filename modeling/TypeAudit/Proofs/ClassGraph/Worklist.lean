import Mathlib.Algebra.GroupWithZero.Nat
import TypeAudit.ClassGraph

/-! # How long the walk takes

The walk behind `ancestors` stands here as a loop, with nothing that bounds it beforehand.  Each turn
takes the next class from the worklist (`Loop.pop?`): a class that is marked is passed over, any
other is marked, listed, and its parents are put on the worklist.  The loop is over when the
worklist is empty.  `Run g s t n` says that `n` turns lead from `s` to `t`.

The worklist can grow and can hold a class many times, but a class puts its parents there once, when
it is listed.  So the turns still to come are the classes that wait and the parents of the classes
still to be listed (`due`).  A turn makes them exactly one fewer (`pop?_due`), in graphs with
cycles, repeated parents and undeclared parents as well.  From this a whole run has its length
(`Run.due_eq`), and a run that long always exists (`exists_run`). -/

namespace TypeAudit.ClassGraph

structure Loop where
  /-- The marked classes. -/
  seen : List String
  /-- The classes that wait, the next one first. -/
  pending : List String
  /-- The classes listed so far. -/
  chain : List String
deriving DecidableEq, Repr

section loop
variable (g : ClassGraph)

/-- One turn of the loop; `none` if no class waits. -/
def Loop.pop? (s : Loop) : Option Loop :=
  match s.pending with
  | [] => none
  | name :: pending =>
    if name ∈ s.seen then some { s with pending }
    else some ⟨name :: s.seen, g.parentsOf name ++ pending, s.chain ++ [name]⟩

/-- The loop before its first turn: the class itself is marked and its parents wait. -/
def Loop.start (name : String) : Loop := ⟨[name], g.parentsOf name, []⟩

/-- `Run g s t n`: the loop goes from `s` to `t` in `n` turns. -/
inductive Run : Loop → Loop → Nat → Prop
  | refl (s : Loop) : Run s s 0
  | pop {s s₁ s₂ : Loop} {n : Nat} : s.pop? g = some s₁ → Run s₁ s₂ n → Run s s₂ (n + 1)

/-- The number of parents of some classes, with repetitions. -/
def parentCount (names : List String) : Nat := (names.map (fun c => (g.parentsOf c).length)).sum

/-- The number of turns still to come. -/
def due (s : Loop) : Nat := s.pending.length + g.parentCount (g.walk s.seen s.pending)

/-- What the loop will have listed in the end. -/
def outcome (s : Loop) : List String := s.chain ++ g.walk s.seen s.pending

end loop

variable {g : ClassGraph} {s t : Loop}

/-! ### One turn -/

theorem pop?_eq_none_iff : s.pop? g = none ↔ s.pending = [] := by
  unfold Loop.pop?
  cases hpending : s.pending with
  | nil => simp
  | cons name pending => by_cases hname : name ∈ s.seen <;> simp [hname]

/-- What a turn can do. -/
theorem pop?_cases (h : s.pop? g = some t) :
    ∃ name pending, s.pending = name :: pending ∧
      (name ∈ s.seen ∧ t = ⟨s.seen, pending, s.chain⟩ ∨
        name ∉ s.seen ∧ t = ⟨name :: s.seen, g.parentsOf name ++ pending, s.chain ++ [name]⟩) := by
  unfold Loop.pop? at h
  cases hpending : s.pending with
  | nil =>
      rw [hpending] at h
      cases h
  | cons name pending =>
      rw [hpending] at h
      refine ⟨name, pending, rfl, ?_⟩
      by_cases hname : name ∈ s.seen
      · exact Or.inl ⟨hname, by simpa [hname] using h.symm⟩
      · exact Or.inr ⟨hname, by simpa [hname] using h.symm⟩

theorem pop?_outcome (h : s.pop? g = some t) : g.outcome t = g.outcome s := by
  unfold outcome
  obtain ⟨name, pending, hpending, ⟨hname, rfl⟩ | ⟨hname, rfl⟩⟩ := pop?_cases h
  · rw [hpending, walk, if_pos hname]
  · rw [hpending, walk, if_neg hname, List.append_assoc, List.singleton_append]

/-- A turn is one fewer to come: the parents that it puts on the worklist were due already, as
those of a class to be listed. -/
theorem pop?_due (h : s.pop? g = some t) : g.due s = g.due t + 1 := by
  unfold due parentCount
  obtain ⟨name, pending, hpending, ⟨hname, rfl⟩ | ⟨hname, rfl⟩⟩ := pop?_cases h
  · rw [hpending, walk, if_pos hname, List.length_cons]
    dsimp only
    omega
  · rw [hpending, walk, if_neg hname, List.map_cons, List.sum_cons, List.length_cons,
      List.length_append]
    dsimp only
    omega

theorem due_of_over (h : s.pop? g = none) : g.due s = 0 := by
  unfold due parentCount
  rw [pop?_eq_none_iff.mp h, walk]
  rfl

theorem outcome_of_over (h : s.pop? g = none) : g.outcome s = s.chain := by
  unfold outcome
  rw [pop?_eq_none_iff.mp h, walk, List.append_nil]

/-! ### Whole runs -/

theorem Run.outcome_eq {n : Nat} (h : Run g s t n) : g.outcome t = g.outcome s := by
  induction h with
  | refl s => rfl
  | pop hpop _ ih => rw [ih, pop?_outcome hpop]

theorem Run.due_eq {n : Nat} (h : Run g s t n) : g.due s = g.due t + n := by
  induction h with
  | refl s => rfl
  | pop hpop _ ih =>
      rw [pop?_due hpop, ih]
      omega

/-- The loop can be run to its end. -/
theorem exists_run (s : Loop) : ∃ t, Run g s t (g.due s) ∧ t.pop? g = none := by
  induction hn : g.due s generalizing s with
  | zero =>
      refine ⟨s, Run.refl s, ?_⟩
      rw [pop?_eq_none_iff]
      unfold due at hn
      exact List.eq_nil_of_length_eq_zero (by omega)
  | succ n ih =>
      cases hpop : s.pop? g with
      | none =>
          rw [due_of_over hpop] at hn
          cases hn
      | some s₁ =>
          have hdue := pop?_due hpop
          obtain ⟨t, hrun, hover⟩ := ih s₁ (by omega)
          exact ⟨t, Run.pop hpop hrun, hover⟩

/-- **The walk ends, and it takes a known number of turns.**  In every graph the loop that starts
from a class is over after as many turns as the class and its ancestors together have parents, where
undeclared classes have none; it has then listed the ancestors.  It cannot be run further than that,
and it is not over sooner. -/
theorem ancestors_loop_ends (g : ClassGraph) (name : String) :
    let turns := (g.parentsOf name).length +
      ((g.ancestors name).map (fun c => (g.parentsOf c).length)).sum
    (∃ t, Run g (Loop.start g name) t turns ∧ t.pop? g = none ∧ t.chain = g.ancestors name) ∧
      ∀ t n, Run g (Loop.start g name) t n → n ≤ turns ∧ (t.pop? g = none ↔ n = turns) := by
  intro turns
  have hturns : g.due (Loop.start g name) = turns := rfl
  constructor
  · obtain ⟨t, hrun, hover⟩ := exists_run (g := g) (Loop.start g name)
    refine ⟨t, hturns ▸ hrun, hover, ?_⟩
    rw [← outcome_of_over hover, hrun.outcome_eq]
    exact List.nil_append _
  · intro t n hrun
    have hdue := hrun.due_eq
    rw [hturns] at hdue
    refine ⟨by omega, ?_, ?_⟩
    · intro hover
      rw [due_of_over hover] at hdue
      omega
    · intro hn
      have hpending : t.pending.length ≤ g.due t := Nat.le_add_right _ _
      rw [pop?_eq_none_iff]
      exact List.eq_nil_of_length_eq_zero (by omega)

/-- Two classes that are each other's parents, with repetitions: the worklist is longer after the
first turn than before it, and empty after the fifth. -/
theorem ancestors_loop_ends_cycle :
    let g : ClassGraph := ⟨[⟨"A", ["B", "B"]⟩, ⟨"B", ["A", "C", "B"]⟩]⟩
    let grown : Loop := ⟨["B", "A"], ["A", "C", "B", "B"], ["B"]⟩
    (Run g (Loop.start g "A") grown 1 ∧ grown.pop? g ≠ none) ∧
      ∃ t, Run g (Loop.start g "A") t 5 ∧ t.pop? g = none ∧ t.chain = ["B", "C"] := by
  intro g grown
  have hchain : g.ancestors "A" = ["B", "C"] := by cbv
  have hturn : Run g (Loop.start g "A") grown 1 := .pop (by decide) (.refl grown)
  obtain ⟨hends, honly⟩ := ancestors_loop_ends g "A"
  rw [hchain] at hends honly
  refine ⟨⟨hturn, ?_⟩, hends⟩
  intro hover
  have hfive := (honly grown 1 hturn).2.mp hover
  revert hfive
  decide

end TypeAudit.ClassGraph
