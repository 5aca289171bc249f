import Mathlib.Data.Finset.Card
import Mathlib.Data.List.Induction
import TypeAudit.ClassGraph
import TypeAudit.UsageRule.Check

/-! # What a declaration changes

A declaration gives a class its parents and takes away those it had before; no other class is
touched (`find?_declare`).

* The walk behind `ancestors` reads the parents of the class it starts from and of the classes it
  meets, and of no others (`ancestors_congr`).  So a declaration is noticed by the class itself and
  by the classes that descended from it before, and by nobody else
  (`declare_reaches_descendants_only`).
* After a whole history of declarations each class has the parents of its last one
  (`find?_ofDecls`).  Two histories that end alike for every class give graphs that no question, no
  lookup and no check tells apart (`last_declaration_counts`). -/

namespace TypeAudit.ClassGraph

/-! ### One declaration -/

section declare
variable (g : ClassGraph) (c : String) (parents : List String)

theorem find?_declare (name : String) :
    (g.declare c parents).find? name = if name = c then some ⟨c, parents⟩ else g.find? name := by
  unfold find? declare
  rw [List.find?_cons]
  split_ifs with hname
  · simp [hname]
  · have hhead : (c == name) = false := beq_false_of_ne (Ne.symm hname)
    have hkept : ∀ d : ClassDecl,
        decide ((!(d.name == c)) = true ∧ (d.name == name) = true) = (d.name == name) := by
      intro d
      by_cases hd : d.name = name
      · simp [hd, hname]
      · simp [hd]
    simp only [hhead, List.find?_filter, hkept]

theorem hasClass_declare_of_ne {name : String} (hname : name ≠ c) :
    (g.declare c parents).hasClass name = g.hasClass name := by
  unfold hasClass
  rw [find?_declare, if_neg hname]

theorem parentsOf_declare_of_ne {name : String} (hname : name ≠ c) :
    (g.declare c parents).parentsOf name = g.parentsOf name := by
  unfold parentsOf
  rw [find?_declare, if_neg hname]

end declare

/-! ### What the walk reads -/

section congr
variable {g g' : ClassGraph}

/-- Two walks from the same worklist go in step as long as the classes they meet have the same
parents. -/
theorem walk_congr {seen pending : List String}
    (h : ∀ a ∈ g.walk seen pending, g'.parentsOf a = g.parentsOf a) :
    g'.walk seen pending = g.walk seen pending := by
  fun_induction walk g seen pending with
  | case1 seen => rw [walk]
  | case2 seen name pending hname ih =>
      rw [walk, if_pos hname]
      exact ih h
  | case3 seen name pending hname ih =>
      obtain ⟨hparents, hrest⟩ := List.forall_mem_cons.mp h
      rw [walk, if_neg hname, hparents, ih hrest]

theorem ancestors_congr {name : String} (hname : g'.parentsOf name = g.parentsOf name)
    (h : ∀ a ∈ g.ancestors name, g'.parentsOf a = g.parentsOf a) :
    g'.ancestors name = g.ancestors name := by
  unfold ancestors
  rw [hname]
  exact walk_congr h

theorem isSubclass_congr {name : String} (h : g'.ancestors name = g.ancestors name)
    (ancestor : String) :
    g'.toHierarchy.isSubclass name ancestor = g.toHierarchy.isSubclass name ancestor :=
  congrArg (List.contains · ancestor) h

end congr

theorem ancestors_declare {g : ClassGraph} {c name : String} (parents : List String)
    (hname : name ≠ c) (hc : c ∉ g.ancestors name) :
    (g.declare c parents).ancestors name = g.ancestors name := by
  refine ancestors_congr (g.parentsOf_declare_of_ne c parents hname) ?_
  intro a ha
  exact g.parentsOf_declare_of_ne c parents (fun hac => hc (hac ▸ ha))

/-- **A declaration reaches only descendants.**  It gives the class its parents, whatever it had
before.  All other classes are as declared or undeclared as they were, and a class that did not
descend from the declared one keeps the list of its ancestors, and so its answers as a subclass. -/
theorem declare_reaches_descendants_only (g : ClassGraph) (c : String) (parents : List String) :
    (g.declare c parents).find? c = some ⟨c, parents⟩ ∧
    (∀ n, n ≠ c → (g.declare c parents).hasClass n = g.hasClass n) ∧
    ∀ n, n ≠ c → c ∉ g.ancestors n →
      (g.declare c parents).ancestors n = g.ancestors n ∧
      ∀ a, (g.declare c parents).toHierarchy.isSubclass n a = g.toHierarchy.isSubclass n a := by
  refine ⟨?_, fun n hn => g.hasClass_declare_of_ne c parents hn, ?_⟩
  · rw [find?_declare, if_pos rfl]
  · intro n hn hc
    have hkept := ancestors_declare parents hn hc
    exact ⟨hkept, isSubclass_congr hkept⟩

/-- One of two classes in a cycle is declared again, below a class that stays as it is. -/
theorem declare_reaches_descendants_only_cycle :
    let g : ClassGraph := ⟨[⟨"A", ["B"]⟩, ⟨"B", ["A"]⟩, ⟨"N", ["M", "K"]⟩, ⟨"M", ["K"]⟩]⟩
    "B" ∉ g.ancestors "N" ∧ (g.declare "B" ["N", "X"]).ancestors "N" = ["M", "K"] ∧
      (g.declare "B" ["N", "X"]).hasClass "X" = false := by
  intro g
  have hchain : g.ancestors "N" = ["M", "K"] := by cbv
  have hfree : "B" ∉ g.ancestors "N" := by
    rw [hchain]
    decide
  obtain ⟨_, hclass, hkept⟩ := declare_reaches_descendants_only g "B" ["N", "X"]
  exact ⟨hfree, (hkept "N" (by decide) hfree).1.trans hchain,
    (hclass "X" (by decide)).trans (by decide)⟩

/-! ### Histories -/

/-- The graph after some declarations, made one after the other.  A class without parents is
declared with none. -/
def ofDecls (history : List ClassDecl) : ClassGraph :=
  history.foldl (fun g d => g.declare d.name d.parents) {}

/-- The last declaration of a class in a history. -/
def lastDecl? (history : List ClassDecl) (name : String) : Option ClassDecl :=
  history.reverse.find? (fun d => d.name == name)

theorem find?_name_isSome_iff (decls : List ClassDecl) (name : String) :
    (decls.find? (fun d => d.name == name)).isSome = true ↔ name ∈ decls.map (·.name) := by
  simp only [List.find?_isSome, beq_iff_eq, List.mem_map]

theorem ofDecls_append_singleton (history : List ClassDecl) (d : ClassDecl) :
    ofDecls (history ++ [d]) = (ofDecls history).declare d.name d.parents := by
  unfold ofDecls
  rw [List.foldl_append]
  rfl

section lastDecl
variable (history later : List ClassDecl) (name : String)

theorem lastDecl?_append :
    lastDecl? (history ++ later) name = (lastDecl? later name).or (lastDecl? history name) := by
  unfold lastDecl?
  rw [List.reverse_append, List.find?_append]

theorem lastDecl?_isSome_iff :
    (lastDecl? history name).isSome = true ↔ name ∈ history.map (·.name) := by
  unfold lastDecl?
  rw [find?_name_isSome_iff, List.map_reverse, List.mem_reverse]

theorem lastDecl?_singleton (d : ClassDecl) :
    lastDecl? [d] name = if name = d.name then some d else none := by
  unfold lastDecl?
  split_ifs with hname
  · simp [hname]
  · simp [Ne.symm hname]

/-- A graph holds the last declarations of its history. -/
theorem find?_ofDecls : (ofDecls history).find? name = lastDecl? history name := by
  induction history using List.reverseRecOn with
  | nil => rfl
  | append_singleton history d ih =>
      rw [ofDecls_append_singleton, find?_declare, lastDecl?_append, lastDecl?_singleton, ih]
      split_ifs <;> rfl

end lastDecl

theorem mem_of_lastDecl? {history : List ClassDecl} {name : String} {d : ClassDecl}
    (h : lastDecl? history name = some d) : d ∈ history ∧ d.name = name :=
  ⟨List.mem_reverse.mp (List.mem_of_find?_eq_some h), by simpa using List.find?_some h⟩

/-- Where every class is declared once, that declaration is the last. -/
theorem lastDecl?_eq_some_iff {history : List ClassDecl}
    (hnodup : (history.map (·.name)).Nodup) (name : String) (d : ClassDecl) :
    lastDecl? history name = some d ↔ d ∈ history ∧ d.name = name := by
  refine ⟨mem_of_lastDecl?, ?_⟩
  rintro ⟨hmem, rfl⟩
  obtain ⟨last, hlast⟩ := Option.isSome_iff_exists.mp
    ((lastDecl?_isSome_iff history d.name).mpr (List.mem_map_of_mem hmem))
  obtain ⟨hlastmem, hname⟩ := mem_of_lastDecl? hlast
  rw [hlast, List.inj_on_of_nodup_map hnodup hlastmem hmem hname]

theorem lastDecl?_of_perm {history history' : List ClassDecl}
    (hnodup : (history.map (·.name)).Nodup) (hperm : history.Perm history') (name : String) :
    lastDecl? history' name = lastDecl? history name := by
  have hnodup' : (history'.map (·.name)).Nodup := (hperm.map (·.name)).nodup hnodup
  apply Option.ext
  intro d
  rw [lastDecl?_eq_some_iff hnodup, lastDecl?_eq_some_iff hnodup', hperm.mem_iff]

/-! ### The number of classes -/

theorem hasClass_iff (g : ClassGraph) (name : String) :
    g.hasClass name = true ↔ name ∈ g.decls.map (·.name) :=
  find?_name_isSome_iff g.decls name

/-- A declaration keeps each class declared at most once. -/
theorem nodup_names_declare {g : ClassGraph} (h : (g.decls.map (·.name)).Nodup) (c : String)
    (parents : List String) : ((g.declare c parents).decls.map (·.name)).Nodup := by
  unfold declare
  rw [List.map_cons, List.nodup_cons]
  refine ⟨?_, h.sublist (List.filter_sublist.map _)⟩
  simp

theorem nodup_names_ofDecls (history : List ClassDecl) :
    ((ofDecls history).decls.map (·.name)).Nodup := by
  induction history using List.reverseRecOn with
  | nil => exact List.nodup_nil
  | append_singleton history d ih =>
      rw [ofDecls_append_singleton]
      exact nodup_names_declare ih d.name d.parents

/-- A graph has as many classes as its history has distinct names. -/
theorem size_ofDecls (history : List ClassDecl) :
    (ofDecls history).size = (history.map (·.name)).toFinset.card := by
  have hnames : (history.map (·.name)).toFinset =
      ((ofDecls history).decls.map (·.name)).toFinset := by
    ext name
    rw [List.mem_toFinset, List.mem_toFinset, ← (ofDecls history).hasClass_iff name,
      hasClass, find?_ofDecls, lastDecl?_isSome_iff]
  rw [hnames, List.toFinset_card_of_nodup (nodup_names_ofDecls history), List.length_map]
  rfl

/-! ### Histories with the same end -/

/-- No question about classes, no lookup and no check tells the two graphs apart. -/
structure Indistinguishable (g g' : ClassGraph) : Prop where
  size : g'.size = g.size
  isEmpty : g'.isEmpty = g.isEmpty
  hasClass : ∀ name, g'.hasClass name = g.hasClass name
  ancestors : ∀ name, g'.ancestors name = g.ancestors name
  isSubclass : ∀ name ancestor,
    g'.toHierarchy.isSubclass name ancestor = g.toHierarchy.isSubclass name ancestor
  find : ∀ (types : Denylist) (name : String) (usage : Usage),
    types.find g'.toHierarchy name usage = types.find g.toHierarchy name usage
  check : ∀ (types : Denylist) (scope : Scope) (docs : DocResolver) (node : Node),
    UsageRule.check types ⟨{ scope with hierarchy := g'.toHierarchy }, docs⟩ node =
      UsageRule.check types ⟨{ scope with hierarchy := g.toHierarchy }, docs⟩ node

/-- The declaration of each class and their number are all there is to see of a graph. -/
theorem Indistinguishable.of_find? {g g' : ClassGraph} (hsize : g'.size = g.size)
    (hfind : ∀ name, g'.find? name = g.find? name) : Indistinguishable g g' := by
  have hclass : ∀ name, g'.hasClass name = g.hasClass name := by
    intro name
    unfold ClassGraph.hasClass
    rw [hfind]
  have hparents : ∀ name, g'.parentsOf name = g.parentsOf name := by
    intro name
    unfold parentsOf
    rw [hfind]
  have hancestors : ∀ name, g'.ancestors name = g.ancestors name := fun name =>
    ancestors_congr (hparents name) (fun a _ => hparents a)
  have hhierarchy : g'.toHierarchy = g.toHierarchy := by
    unfold toHierarchy
    rw [funext hclass, funext hancestors]
  refine ⟨hsize, ?_, hclass, hancestors, ?_, ?_, ?_⟩
  · rw [Bool.eq_iff_iff]
    unfold ClassGraph.isEmpty
    rw [List.isEmpty_iff_length_eq_zero, List.isEmpty_iff_length_eq_zero]
    exact iff_of_eq (congrArg (· = 0) hsize)
  · intro name ancestor
    rw [hhierarchy]
  · intro types name usage
    rw [hhierarchy]
  · intro types scope docs node
    rw [hhierarchy]

theorem indistinguishable_of_lastDecl? {history history' : List ClassDecl}
    (h : ∀ name, lastDecl? history' name = lastDecl? history name) :
    Indistinguishable (ofDecls history) (ofDecls history') := by
  refine .of_find? ?_ ?_
  · have hnames : (history'.map (·.name)).toFinset = (history.map (·.name)).toFinset := by
      ext name
      rw [List.mem_toFinset, List.mem_toFinset, ← lastDecl?_isSome_iff, ← lastDecl?_isSome_iff, h]
    rw [size_ofDecls, size_ofDecls, hnames]
  · intro name
    rw [find?_ofDecls, find?_ofDecls, h]

/-- **Only the last declaration of each class counts.**  Two histories with the same last
declaration of every class, or none in both, give graphs that nothing tells apart, with as many
classes as there are names.  In particular declarations of distinct classes can be made in any
order, whatever was declared before and is declared after them. -/
theorem last_declaration_counts :
    (∀ history history' : List ClassDecl,
      (∀ name, lastDecl? history' name = lastDecl? history name) →
      Indistinguishable (ofDecls history) (ofDecls history')) ∧
    (∀ history : List ClassDecl,
      (ofDecls history).size = (history.map (·.name)).toFinset.card) ∧
    ∀ before decls decls' after : List ClassDecl, (decls.map (·.name)).Nodup →
      decls.Perm decls' →
      Indistinguishable (ofDecls (before ++ decls ++ after))
        (ofDecls (before ++ decls' ++ after)) := by
  refine ⟨fun history history' => indistinguishable_of_lastDecl?, size_ofDecls, ?_⟩
  intro before decls decls' after hnodup hperm
  refine indistinguishable_of_lastDecl? ?_
  intro name
  simp only [lastDecl?_append, lastDecl?_of_perm hnodup hperm]

/-- A class is declared again in one history, another one in the other. -/
theorem last_declaration_counts_redeclared :
    let history : List ClassDecl := [⟨"A", ["Z"]⟩, ⟨"B", []⟩, ⟨"A", ["B"]⟩]
    let history' : List ClassDecl := [⟨"A", ["B"]⟩, ⟨"B", ["A", "Q"]⟩, ⟨"B", []⟩]
    (∀ name, lastDecl? history' name = lastDecl? history name) ∧
      (ofDecls history').ancestors "A" = (ofDecls history).ancestors "A" ∧
      (ofDecls history').size = (ofDecls history).size ∧ (ofDecls history).size = 2 ∧
      (ofDecls [⟨"A", ["Z"]⟩, ⟨"A", ["B"]⟩, ⟨"B", []⟩]).ancestors "A" =
        (ofDecls history).ancestors "A" := by
  intro history history'
  have hlast : ∀ name, lastDecl? history' name = lastDecl? history name := by
    intro name
    by_cases hA : "A" = name
    · subst hA
      decide
    · by_cases hB : "B" = name <;> simp [lastDecl?, history, history', hA, hB]
  obtain ⟨hsame, hsize, horder⟩ := last_declaration_counts
  have h := hsame history history' hlast
  have hswap := horder [⟨"A", ["Z"]⟩] [⟨"B", []⟩, ⟨"A", ["B"]⟩] [⟨"A", ["B"]⟩, ⟨"B", []⟩] []
    (by decide) (List.Perm.swap _ _ _)
  exact ⟨hlast, h.ancestors "A", h.size, (hsize history).trans (by decide), hswap.ancestors "A"⟩

end TypeAudit.ClassGraph
