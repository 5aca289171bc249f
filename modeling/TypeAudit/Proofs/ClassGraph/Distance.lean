import Mathlib.Data.Nat.Find
import Mathlib.Order.Bounds.Defs
import TypeAudit.Proofs.ClassGraph.Preorder
import TypeAudit.Proofs.ClassGraph.Reachability

/-! # How far ancestors are, and in which order they come

The *distance* of an ancestor is the least number of parent edges that lead to it.  The walk behind
`ancestors` goes up from the first parent before it looks at the second, so it does not list the
ancestors by their distance: what stands above the first parent comes before the other parents
(`further_before_parent`).

Two things do hold.

* A class over which every way to another class leads comes before that class, and is nearer
  (`before_of_gateway`, `nearer_of_gateway`).
* If all parents of a class but the last have no parents of their own, for every class the walk
  meets, then the ancestors come nearest first (`LevelInvariant.run`).  The walk then leaves a level
  only when nothing of it waits, which is what `LevelInvariant` says. -/

namespace TypeAudit.ClassGraph

section distance
variable (g : ClassGraph) (name : String)

/-- `Steps g name n a`: `n` parent edges lead from `name` to `a`. -/
inductive Steps : Nat → String → Prop
  | refl : Steps 0 name
  | parent {n : Nat} {a b : String} : Steps n a → b ∈ g.parentsOf a → Steps (n + 1) b

/-- The least number of parent edges from `name` to `a` is `n`. -/
def Distance (a : String) (n : Nat) : Prop := IsLeast {n | g.Steps name n a} n

/-- No ancestor comes before a nearer one. -/
def NearestFirst : Prop :=
  (g.ancestors name).Pairwise
    (fun a b => ∀ m n, g.Distance name a m → g.Distance name b n → m ≤ n)

/-- `b` is reached from `name` by parent edges none of which leads to `a`. -/
def ReachedAround (a b : String) : Prop :=
  Relation.TransGen (fun x y => y ∈ g.parentsOf x ∧ y ≠ a) name b

/-- Every way from `name` to `b` leads over `a`, which is neither of them. -/
structure Gateway (a b : String) : Prop where
  ne_start : a ≠ name
  ne_end : a ≠ b
  not_around : ¬ g.ReachedAround name a b

end distance

variable {g : ClassGraph} {name : String}

/-! ### Numbers of steps -/

theorem Steps.eq_of_zero {a : String} (h : g.Steps name 0 a) : a = name := by
  cases h
  rfl

theorem Steps.mem_of_one {a : String} (h : g.Steps name 1 a) : a ∈ g.parentsOf name := by
  cases h with
  | parent hsteps hparent => rwa [hsteps.eq_of_zero] at hparent

theorem Descends.exists_steps {a : String} (h : g.Descends name a) : ∃ n, g.Steps name n a := by
  induction h with
  | single hparent => exact ⟨1, .parent .refl ((g.parent_iff _ _).mp hparent)⟩
  | tail _ hparent ih =>
      obtain ⟨n, hsteps⟩ := ih
      exact ⟨n + 1, hsteps.parent ((g.parent_iff _ _).mp hparent)⟩

theorem exists_distance {a : String} (h : a ∈ g.ancestors name) : ∃ n, g.Distance name a n := by
  classical
  have hsteps := ((g.mem_ancestors_iff name a).mp h).2.exists_steps
  exact ⟨Nat.find hsteps, Nat.find_spec hsteps, fun n hn => Nat.find_min' hsteps hn⟩

/-! ### Ways around a class -/

section gateway
variable {a b : String}

theorem ReachedAround.parent {x y : String} (hx : x = name ∨ g.ReachedAround name a x)
    (hy : y ∈ g.parentsOf x) (hne : y ≠ a) : g.ReachedAround name a y := by
  rcases hx with rfl | hx
  · exact Relation.TransGen.single ⟨hy, hne⟩
  · exact Relation.TransGen.tail hx ⟨hy, hne⟩

/-- Until the walk has met `a`, it meets only what can be reached around it. -/
theorem sublist_walk_of_gateway (hgate : g.Gateway name a b) {seen pending : List String}
    (hseen : a ∉ seen) (hpending : ∀ x ∈ pending, x = a ∨ g.ReachedAround name a x)
    (hb : b ∈ g.walk seen pending) : [a, b].Sublist (g.walk seen pending) := by
  fun_induction walk g seen pending with
  | case1 seen => exact absurd hb List.not_mem_nil
  | case2 seen x pending hx ih =>
      exact ih hseen (fun y hy => hpending y (List.mem_cons_of_mem _ hy)) hb
  | case3 seen x pending hx ih =>
      obtain ⟨hhead, htail⟩ := List.forall_mem_cons.mp hpending
      by_cases hxa : x = a
      · subst hxa
        have hrest := (List.mem_cons.mp hb).resolve_left hgate.ne_end.symm
        exact (List.singleton_sublist.mpr hrest).cons_cons x
      · have haround := hhead.resolve_left hxa
        have hbx : b ≠ x := by
          rintro rfl
          exact hgate.not_around haround
        refine (ih ?_ ?_ ((List.mem_cons.mp hb).resolve_left hbx)).cons x
        · exact List.not_mem_cons_of_ne_of_not_mem (Ne.symm hxa) hseen
        · intro y hy
          rcases List.mem_append.mp hy with hy | hy
          · by_cases hya : y = a
            · exact Or.inl hya
            · exact Or.inr (.parent (Or.inr haround) hy hya)
          · exact htail y hy

theorem before_of_gateway (hb : b ∈ g.ancestors name) (hgate : g.Gateway name a b) :
    [a, b].Sublist (g.ancestors name) := by
  refine sublist_walk_of_gateway hgate ?_ ?_ hb
  · exact fun h => hgate.ne_start (List.mem_singleton.mp h)
  · intro x hx
    by_cases hxa : x = a
    · exact Or.inl hxa
    · exact Or.inr (.parent (Or.inl rfl) hx hxa)

/-- A class that some steps lead to is reached around `a`, or is `a`, or lies behind it. -/
theorem Steps.around_or_behind (a : String) {n : Nat} {b : String} (h : g.Steps name n b) :
    (b = name ∨ g.ReachedAround name a b) ∨ b = a ∨ ∃ m < n, g.Steps name m a := by
  induction h with
  | refl => exact Or.inl (Or.inl rfl)
  | @parent n x y hsteps hparent ih =>
      rcases ih with haround | rfl | ⟨m, hm, hbefore⟩
      · by_cases hya : y = a
        · exact Or.inr (Or.inl hya)
        · exact Or.inl (Or.inr (.parent haround hparent hya))
      · exact Or.inr (Or.inr ⟨n, Nat.lt_succ_self n, hsteps⟩)
      · exact Or.inr (Or.inr ⟨m, by omega, hbefore⟩)

theorem nearer_of_gateway {m n : Nat} (hb : b ∈ g.ancestors name) (hgate : g.Gateway name a b)
    (hm : g.Distance name a m) (hn : g.Distance name b n) : m < n := by
  have hne : b ≠ name := ((g.mem_ancestors_iff name b).mp hb).1
  rcases Steps.around_or_behind a hn.1 with haround | heq | ⟨k, hk, hsteps⟩
  · exact absurd (haround.resolve_left hne) hgate.not_around
  · exact absurd heq.symm hgate.ne_end
  · have hleast : m ≤ k := hm.2 hsteps
    omega

end gateway

/-! ### Level after level -/

/-- The walk from `start` is at the parents of `c`, which is `d` steps away, and has marked all that
is no further away than `c`. -/
structure LevelInvariant (g : ClassGraph) (start : String) (d : Nat) (c : String)
    (seen pending : List String) : Prop extends g.WalkInvariant start seen pending where
  steps : g.Steps start d c
  suffix : pending <:+ g.parentsOf c
  level : ∀ n a, n ≤ d → g.Steps start n a → a ∈ seen

namespace LevelInvariant

theorem init (g : ClassGraph) (start : String) :
    g.LevelInvariant start 0 start [start] (g.parentsOf start) := by
  refine ⟨WalkInvariant.init g start, .refl, List.suffix_rfl, ?_⟩
  intro n a hn hsteps
  obtain rfl : n = 0 := Nat.le_zero.mp hn
  exact List.mem_singleton.mpr hsteps.eq_of_zero

variable {start c x : String} {d : Nat} {seen pending : List String}

theorem steps_head (h : g.LevelInvariant start d c seen (x :: pending)) :
    g.Steps start (d + 1) x :=
  h.steps.parent (h.suffix.subset List.mem_cons_self)

theorem skip (h : g.LevelInvariant start d c seen (x :: pending)) (hx : x ∈ seen) :
    g.LevelInvariant start d c seen pending :=
  ⟨h.toWalkInvariant.skip hx, h.steps, (List.suffix_cons x pending).trans h.suffix, h.level⟩

/-- A class without parents leaves the walk where it is. -/
theorem take_root (h : g.LevelInvariant start d c seen (x :: pending)) (hx : g.parentsOf x = []) :
    g.LevelInvariant start d c (x :: seen) (g.parentsOf x ++ pending) := by
  refine ⟨h.toWalkInvariant.take, h.steps, ?_, ?_⟩
  · rw [hx, List.nil_append]
    exact (List.suffix_cons x pending).trans h.suffix
  · intro n a hn hsteps
    exact List.mem_cons_of_mem _ (h.level n a hn hsteps)

/-- From the last class of a level the walk goes on to the next level, whose classes are parents of
marked ones and so are marked or wait. -/
theorem take_last (h : g.LevelInvariant start d c seen [x]) :
    g.LevelInvariant start (d + 1) x (x :: seen) (g.parentsOf x ++ []) := by
  refine ⟨h.toWalkInvariant.take, h.steps_head, ?_, ?_⟩
  · simp only [List.append_nil, List.suffix_rfl]
  · intro n a hn hsteps
    rcases Nat.lt_or_eq_of_le hn with hlt | rfl
    · exact List.mem_cons_of_mem _ (h.level n a (by omega) hsteps)
    · cases hsteps with
      | parent hbelow hparent =>
          rcases h.frontier _ (h.level d _ (Nat.le_refl d) hbelow) a hparent with hs | hp
          · exact List.mem_cons_of_mem _ hs
          · exact List.mem_cons.mpr (Or.inl (List.mem_singleton.mp hp))

/-- A class behind which others wait is not the last parent of `c`. -/
theorem mem_dropLast (h : g.LevelInvariant start d c seen (x :: pending)) (hne : pending ≠ []) :
    x ∈ (g.parentsOf c).dropLast := by
  obtain ⟨front, hparents⟩ := h.suffix
  rw [← hparents, List.dropLast_append_of_ne_nil (List.cons_ne_nil x pending),
    List.dropLast_cons_of_ne_nil hne]
  exact List.mem_append_right _ List.mem_cons_self

/-- A walk that changes levels at last parents only lists nearer classes first. -/
theorem run (h : g.LevelInvariant start d c seen pending)
    (hroots : ∀ c, c = start ∨ g.Descends start c →
      ∀ p ∈ (g.parentsOf c).dropLast, g.parentsOf p = []) :
    (g.walk seen pending).Pairwise
      (fun a b => ∀ m n, g.Distance start a m → g.Distance start b n → m ≤ n) := by
  fun_induction walk g seen pending generalizing d c with
  | case1 seen => exact List.Pairwise.nil
  | case2 seen x pending hx ih => exact ih (h.skip hx)
  | case3 seen x pending hx ih =>
      refine List.pairwise_cons.mpr ⟨?_, ?_⟩
      · intro b hb m n hm hn
        have hmle : m ≤ d + 1 := hm.2 h.steps_head
        have hunseen : b ∉ seen := by
          intro hs
          exact g.not_mem_seen_of_mem_walk _ _ b hb (List.mem_cons_of_mem _ hs)
        have hfar : ¬ n ≤ d := fun hle => hunseen (h.level n b hle hn.1)
        omega
      · cases pending with
        | nil => exact ih h.take_last
        | cons y pending =>
            have hc : c = start ∨ g.Descends start c :=
              h.seen_descends c (h.level d c (Nat.le_refl d) h.steps)
            have hroot := hroots c hc x (h.mem_dropLast (List.cons_ne_nil y pending))
            exact ih (h.take_root hroot)

end LevelInvariant

/-! ### Above the first parent -/

theorem mem_walk_of_mem_pending {seen pending : List String} {a : String} (ha : a ∈ pending)
    (hs : a ∉ seen) : a ∈ g.walk seen pending := by
  fun_induction walk g seen pending with
  | case1 seen => exact ha
  | case2 seen x pending hx ih =>
      refine ih ((List.mem_cons.mp ha).resolve_left ?_) hs
      rintro rfl
      exact hs hx
  | case3 seen x pending hx ih =>
      by_cases hax : a = x
      · exact List.mem_cons.mpr (Or.inl hax)
      · refine List.mem_cons_of_mem _ (ih ?_ (List.not_mem_cons_of_ne_of_not_mem hax hs))
        exact List.mem_append_right _ ((List.mem_cons.mp ha).resolve_left hax)

theorem descends_of_mem_walk {seen pending : List String} {a : String}
    (ha : a ∈ g.walk seen pending) : ∃ x ∈ pending, a = x ∨ g.Descends x a := by
  fun_induction walk g seen pending with
  | case1 seen => exact absurd ha List.not_mem_nil
  | case2 seen x pending hx ih =>
      obtain ⟨y, hy, hya⟩ := ih ha
      exact ⟨y, List.mem_cons_of_mem _ hy, hya⟩
  | case3 seen x pending hx ih =>
      rcases List.mem_cons.mp ha with rfl | ha
      · exact ⟨a, List.mem_cons_self, Or.inl rfl⟩
      · obtain ⟨y, hy, hya⟩ := ih ha
        rcases List.mem_append.mp hy with hy | hy
        · refine ⟨x, List.mem_cons_self, Or.inr ?_⟩
          rcases hya with rfl | hya
          · exact Descends.of_parent hy
          · exact Descends.head hy hya
        · exact ⟨y, List.mem_cons_of_mem _ hy, hya⟩

/-- What is toured first does not depend on what waits behind it. -/
theorem exists_walk_append (seen parents pending : List String) :
    ∃ visited, g.walk seen (parents ++ pending) = g.walk seen parents ++ g.walk visited pending := by
  refine ⟨(g.tour seen parents).visited, ?_⟩
  have halone := g.walk_append seen parents []
  rw [List.append_nil, walk, List.append_nil] at halone
  rw [walk_append, halone]

/-- A parent of the first parent comes before another parent of the class, unless it is one itself
or the other one stands above the first. -/
theorem further_before_parent {p a b : String} {others : List String}
    (hparents : g.parentsOf name = p :: others) (ha : a ∈ g.parentsOf p)
    (hfar : a ∉ name :: g.parentsOf name) (hb : b ∈ others)
    (hbeside : b ∉ name :: p :: g.ancestors p) :
    [a, b].Sublist (g.ancestors name) ∧ g.Distance name a 2 ∧ g.Distance name b 1 := by
  simp only [List.mem_cons, not_or] at hfar hbeside
  obtain ⟨haname, haparent⟩ := hfar
  obtain ⟨hbname, hbp, hbabove⟩ := hbeside
  have hpmem : p ∈ g.parentsOf name := by
    rw [hparents]
    exact List.mem_cons_self
  have hbmem : b ∈ g.parentsOf name := by
    rw [hparents]
    exact List.mem_cons_of_mem _ hb
  have hpname : p ∉ [name] := by
    intro h
    rw [List.mem_singleton.mp h] at ha
    exact haparent ha
  have hap : a ≠ p := by
    rintro rfl
    exact haparent hpmem
  refine ⟨?_, ⟨(Steps.refl.parent hpmem).parent ha, ?_⟩, ⟨Steps.refl.parent hbmem, ?_⟩⟩
  · obtain ⟨visited, hsplit⟩ := g.exists_walk_append [p, name] (g.parentsOf p) others
    have hchain : g.ancestors name =
        p :: (g.walk [p, name] (g.parentsOf p) ++ g.walk visited others) := by
      rw [ancestors, hparents, walk, if_neg hpname, hsplit]
    have hafront : a ∈ g.walk [p, name] (g.parentsOf p) :=
      mem_walk_of_mem_pending ha (by simp [hap, haname])
    have hbfront : b ∉ g.walk [p, name] (g.parentsOf p) := by
      intro hmem
      obtain ⟨x, hx, hxb⟩ := descends_of_mem_walk hmem
      have hdescends : g.Descends p b := by
        rcases hxb with rfl | hxb
        · exact Descends.of_parent hx
        · exact Descends.head hx hxb
      exact hbabove ((g.mem_ancestors_iff p b).mpr ⟨hbp, hdescends⟩)
    have hbmeet : b ∈ g.ancestors name :=
      (g.mem_ancestors_iff name b).mpr ⟨hbname, Descends.of_parent hbmem⟩
    rw [hchain] at hbmeet ⊢
    have hbback : b ∈ g.walk visited others :=
      (List.mem_append.mp ((List.mem_cons.mp hbmeet).resolve_left hbp)).resolve_left hbfront
    exact ((List.singleton_sublist.mpr hafront).append
      (List.singleton_sublist.mpr hbback)).cons p
  · intro n hsteps
    have hzero : n ≠ 0 := by
      rintro rfl
      exact haname hsteps.eq_of_zero
    have hone : n ≠ 1 := by
      rintro rfl
      exact haparent hsteps.mem_of_one
    omega
  · intro n hsteps
    have hzero : n ≠ 0 := by
      rintro rfl
      exact hbname hsteps.eq_of_zero
    omega

theorem NearestFirst.le_of_sublist (h : g.NearestFirst name) {a b : String} {m n : Nat}
    (hab : [a, b].Sublist (g.ancestors name)) (hm : g.Distance name a m)
    (hn : g.Distance name b n) : m ≤ n :=
  List.pairwise_iff_forall_sublist.mp h hab m n hm hn

/-! ### The order of ancestors -/

/-- **Ancestors come nearest first only in part.**  In every graph, a class over which every way to
an ancestor leads comes before that ancestor and is nearer.  If all but the last parents of the
classes on the way up have no parents, the ancestors come nearest first.  But they do not as soon as
the first parent has a parent that is not one of the class as well, and another parent of the class
does not stand above the first. -/
theorem ancestors_order_and_distance (g : ClassGraph) (name : String) :
    (∀ a b, b ∈ g.ancestors name → g.Gateway name a b →
      [a, b].Sublist (g.ancestors name) ∧
        ∃ m n, g.Distance name a m ∧ g.Distance name b n ∧ m < n) ∧
    ((∀ c ∈ name :: g.ancestors name, ∀ p ∈ (g.parentsOf c).dropLast, g.parentsOf p = []) →
      g.NearestFirst name) ∧
    ∀ p a b others, g.parentsOf name = p :: others → a ∈ g.parentsOf p →
      a ∉ name :: g.parentsOf name → b ∈ others → b ∉ name :: p :: g.ancestors p →
      ¬ g.NearestFirst name := by
  refine ⟨?_, ?_, ?_⟩
  · intro a b hb hgate
    have hbefore := before_of_gateway hb hgate
    obtain ⟨m, hm⟩ := exists_distance (hbefore.subset (List.mem_cons_self : a ∈ [a, b]))
    obtain ⟨n, hn⟩ := exists_distance hb
    exact ⟨hbefore, m, n, hm, hn, nearer_of_gateway hb hgate hm hn⟩
  · intro hroots
    refine (LevelInvariant.init g name).run ?_
    intro c hc
    apply hroots
    by_cases hname : c = name
    · exact List.mem_cons.mpr (Or.inl hname)
    · exact List.mem_cons_of_mem _
        ((g.mem_ancestors_iff name c).mpr ⟨hname, hc.resolve_left hname⟩)
  · intro p a b others hparents ha hfar hb hbeside hnearest
    obtain ⟨hbefore, hdista, hdistb⟩ := further_before_parent hparents ha hfar hb hbeside
    have hle := hnearest.le_of_sublist hbefore hdista hdistb
    omega

/-- Two parents above one, in the order of distance; a second parent beside the one spoils it. -/
theorem ancestors_order_and_distance_interfaces :
    let g : ClassGraph :=
      ⟨[⟨"Leaf", ["Middle"]⟩, ⟨"Middle", ["Base", "Countable"]⟩, ⟨"Countable", []⟩, ⟨"Base", []⟩]⟩
    let g' := g.declare "Leaf" ["Middle", "Direct"]
    g.NearestFirst "Leaf" ∧ ["Middle", "Base"].Sublist (g.ancestors "Leaf") ∧
      ¬ g'.NearestFirst "Leaf" := by
  intro g g'
  have hchain : g.ancestors "Leaf" = ["Middle", "Base", "Countable"] := by cbv
  have hchain' : g'.ancestors "Middle" = ["Base", "Countable"] := by cbv
  have hgate : g.Gateway "Leaf" "Middle" "Base" := by
    refine ⟨by decide, by decide, ?_⟩
    intro haround
    obtain ⟨x, ⟨hx, hne⟩, -⟩ := Relation.TransGen.head'_iff.mp haround
    exact hne (List.mem_singleton.mp hx)
  obtain ⟨hbefore, hnearest, -⟩ := ancestors_order_and_distance g "Leaf"
  obtain ⟨-, -, hfails⟩ := ancestors_order_and_distance g' "Leaf"
  refine ⟨hnearest ?_, (hbefore "Middle" "Base" ?_ hgate).1, ?_⟩
  · rw [hchain]
    decide
  · rw [hchain]
    decide
  · refine hfails "Middle" "Base" "Direct" ["Direct"] (by decide) (by decide) (by decide)
      (by decide) ?_
    rw [hchain']
    decide

/-- The grandparent, two edges away, stands before the second parent, one edge away. -/
theorem ancestors_not_nearest_first :
    let g : ClassGraph :=
      ⟨[⟨"Leaf", ["Middle", "Direct"]⟩, ⟨"Middle", ["Base"]⟩, ⟨"Base", []⟩, ⟨"Direct", []⟩]⟩
    g.ancestors "Leaf" = ["Middle", "Base", "Direct"] ∧
      g.Distance "Leaf" "Base" 2 ∧ g.Distance "Leaf" "Direct" 1 ∧ ¬ g.NearestFirst "Leaf" := by
  intro g
  have hchain : g.ancestors "Leaf" = ["Middle", "Base", "Direct"] := by cbv
  have habove : g.ancestors "Middle" = ["Base"] := by cbv
  have hbeside : "Direct" ∉ "Leaf" :: "Middle" :: g.ancestors "Middle" := by
    rw [habove]
    decide
  obtain ⟨hbefore, hbase, hdirect⟩ : ["Base", "Direct"].Sublist (g.ancestors "Leaf") ∧
      g.Distance "Leaf" "Base" 2 ∧ g.Distance "Leaf" "Direct" 1 :=
    further_before_parent rfl (by decide) (by decide) (by decide) hbeside
  refine ⟨hchain, hbase, hdirect, ?_⟩
  intro hnearest
  have hle := hnearest.le_of_sublist hbefore hbase hdirect
  omega

end TypeAudit.ClassGraph
