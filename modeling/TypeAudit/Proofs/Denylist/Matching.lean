import TypeAudit.Denylist.Match
import TypeAudit.Proofs.ClassGraph.Reachability
import TypeAudit.Proofs.Denylist.Validity

/-! # What a denylist denies

`find_value` gives the answer of `find` for any hierarchy: an entry for the bare name decides
alone; otherwise, if the hierarchy knows the name, the first inheriting entry does.  The shortcut
for denylists without subclass entries does not show in the answer.

Over a class graph an entry inherits to a name that descends from it (`Inherits`), so the answer
is stated by reachability alone (`find_over_classes`), for graphs with cycles and undeclared
parents as well. -/

namespace TypeAudit

theorem Entry.appliesTo_eq_false_iff (e : Entry) (usage : Usage) :
    e.appliesTo usage = false ↔ e.typeHintOnly = true ∧ usage = .structural := by
  cases usage <;> simp [Entry.appliesTo]

theorem Entry.appliesTo_iff (e : Entry) (usage : Usage) :
    e.appliesTo usage = true ↔ usage = .typeHint ∨ e.typeHintOnly = false := by
  cases usage <;> simp [Entry.appliesTo]

namespace Denylist

/-! ### Any hierarchy -/

section hierarchy
variable (h : Hierarchy) (name : String) (usage : Usage)

/-- The entry denies `name` because of an ancestor, as far as the hierarchy can tell. -/
def inherits (e : Entry) : Bool :=
  e.withSubclasses && e.appliesTo usage && h.hasClass e.name && h.isSubclass name e.name

theorem firstInherited_value (es : List Entry) :
    (firstInherited h name usage es).value = es.find? (inherits h name usage) := by
  induction es with
  | nil => rfl
  | cons e es ih =>
      unfold firstInherited
      rw [List.find?_cons]
      by_cases happly : (e.withSubclasses && e.appliesTo usage) = true
      · have hinherits : inherits h name usage e =
            (h.hasClass e.name && h.isSubclass name e.name) := by
          unfold inherits
          rw [happly, Bool.true_and]
        rw [if_pos happly, hinherits]
        cases hclass : h.hasClass e.name with
        | false => simp [hclass, ih]
        | true => cases hsub : h.isSubclass name e.name <;> simp [hclass, hsub, ih]
      · have hinherits : inherits h name usage e = false := by
          unfold inherits
          rw [Bool.not_eq_true] at happly
          rw [happly, Bool.false_and, Bool.false_and]
        rw [if_neg happly, hinherits, ih]

theorem find?_inherits_of_no_subclass_entries {es : List Entry}
    (hes : es.any (·.withSubclasses) = false) : es.find? (inherits h name usage) = none := by
  rw [List.find?_eq_none]
  intro e he hinherits
  rw [List.any_eq_false] at hes
  unfold inherits at hinherits
  simp only [Bool.and_eq_true] at hinherits
  exact hes e he hinherits.1.1.1

theorem get?_bare (d : Denylist) : d.get? (TypeName.bare name) = d.get? name := by
  unfold get?
  rw [TypeName.bare_bare]

/-- The answer of `find`, without its account. -/
theorem find_value (d : Denylist) :
    (d.find h name usage).value =
      match d.get? name with
      | some e => if e.appliesTo usage then some (.exact e) else none
      | none =>
        if h.hasClass (TypeName.bare name) then
          (d.entries.find? (inherits h (TypeName.bare name) usage)).map .inherited
        else none := by
  unfold find
  simp only [get?_bare]
  cases d.get? name with
  | some e => rfl
  | none =>
      by_cases hsub : d.hasSubclassEntries = true
      · rw [if_pos hsub, ← firstInherited_value]
        cases hclass : h.hasClass (TypeName.bare name) with
        | false => simp [hclass]
        | true =>
            cases hfirst : (firstInherited h (TypeName.bare name) usage d.entries).value <;>
              simp [hclass, hfirst]
      · have hnone : d.hasSubclassEntries = false := Bool.eq_false_iff.mpr hsub
        rw [if_neg hsub, find?_inherits_of_no_subclass_entries h _ usage hnone]
        simp

/-- Going through the entries asks questions and does nothing else. -/
theorem firstInherited_filterMap_events {β : Type} {f : Event → Option β}
    (hf : ∀ q, f (.query q) = none) (es : List Entry) :
    (firstInherited h name usage es).events.filterMap f = [] := by
  induction es with
  | nil => rfl
  | cons e es ih =>
      unfold firstInherited
      split_ifs
      · cases hclass : h.hasClass e.name with
        | false => simp [Hierarchy.askHasClass, hclass, hf, ih]
        | true =>
            cases hsub : h.isSubclass name e.name <;>
              simp [Hierarchy.askHasClass, Hierarchy.askIsSubclass, hclass, hsub, hf, ih]
      · exact ih

theorem firstInherited_requests (es : List Entry) :
    (firstInherited h name usage es).requests = [] :=
  firstInherited_filterMap_events h name usage (fun _ => rfl) es

/-- Looking a name up has no comment resolved. -/
theorem find_requests (d : Denylist) : (d.find h name usage).requests = [] := by
  have hwalk := firstInherited_requests h (TypeName.bare name) usage d.entries
  unfold find
  dsimp only
  cases d.get? (TypeName.bare name) with
  | some e => rfl
  | none =>
      dsimp only
      split_ifs
      · cases hclass : h.hasClass (TypeName.bare name) with
        | false => simp [hclass]
        | true =>
            cases hfirst : (firstInherited h (TypeName.bare name) usage d.entries).value <;>
              simp [hclass, hfirst, hwalk]
      · rfl

theorem find_bare_congr (d : Denylist) {name name' : String}
    (hname : TypeName.bare name = TypeName.bare name') :
    d.find h name usage = d.find h name' usage := by
  unfold find
  simp only [hname]

end hierarchy

/-! ### Class graphs -/

/-- The entry denies `name` because `name` descends from it in the graph. -/
structure Inherits (g : ClassGraph) (name : String) (usage : Usage) (e : Entry) : Prop where
  withSubclasses : e.withSubclasses = true
  applies : usage = .typeHint ∨ e.typeHintOnly = false
  declared : g.hasClass e.name = true
  descends : Relation.TransGen g.Parent name e.name

theorem inherits_toHierarchy_iff (g : ClassGraph) (name : String) (usage : Usage) {e : Entry}
    (hne : e.name ≠ name) :
    inherits g.toHierarchy name usage e = true ↔ Inherits g name usage e := by
  unfold inherits
  simp only [Bool.and_eq_true, Entry.appliesTo_iff, g.isSubclass_iff]
  constructor
  · rintro ⟨⟨⟨hsub, happly⟩, hclass⟩, _, hdesc⟩
    exact ⟨hsub, happly, hclass, hdesc⟩
  · rintro ⟨hsub, happly, hclass, hdesc⟩
    exact ⟨⟨⟨hsub, happly⟩, hclass⟩, hne, hdesc⟩

/-- The first of the entries that denies `name` because of an ancestor. -/
def FirstInherits (g : ClassGraph) (name : String) (usage : Usage) (es : List Entry)
    (e : Entry) : Prop :=
  ∃ before after, es = before ++ e :: after ∧ Inherits g name usage e ∧
    ∀ b ∈ before, ¬ Inherits g name usage b

section classes
variable {d : Denylist} (hd : d.WellFormed) (g : ClassGraph) {name : String} (usage : Usage)
include hd

theorem WellFormed.find_of_entry (h : Hierarchy) {e : Entry} (he : e ∈ d.entries)
    (hname : e.name = TypeName.bare name) :
    (d.find h name usage).value = if e.appliesTo usage then some (.exact e) else none := by
  rw [find_value, (hd.get?_eq_some_iff name e).mpr ⟨he, hname⟩]

variable (hname : ∀ e ∈ d.entries, e.name ≠ TypeName.bare name)
include hname

theorem WellFormed.find_of_firstInherits (hclass : g.hasClass (TypeName.bare name) = true)
    {e : Entry} (he : FirstInherits g (TypeName.bare name) usage d.entries e) :
    (d.find g.toHierarchy name usage).value = some (.inherited e) := by
  obtain ⟨before, after, hsplit, hinherits, hbefore⟩ := he
  have hmem : ∀ b ∈ before ++ e :: after, b.name ≠ TypeName.bare name := hsplit ▸ hname
  have hfirst : d.entries.find? (inherits g.toHierarchy (TypeName.bare name) usage) = some e := by
    rw [hsplit, List.find?_eq_some_iff_append]
    refine ⟨(inherits_toHierarchy_iff g _ usage (hmem e (by simp))).mpr hinherits,
      before, after, rfl, ?_⟩
    intro b hb
    have hb' := hmem b (List.mem_append_left _ hb)
    rw [Bool.not_eq_true', Bool.eq_false_iff, ne_eq, inherits_toHierarchy_iff g _ usage hb']
    exact hbefore b hb
  rw [find_value, (hd.get?_eq_none_iff name).mpr hname, hfirst]
  simp only [ClassGraph.toHierarchy, hclass, if_true, Option.map_some]

theorem WellFormed.find_of_not_inherits
    (h : g.hasClass (TypeName.bare name) = false ∨
      ∀ e ∈ d.entries, ¬ Inherits g (TypeName.bare name) usage e) :
    (d.find g.toHierarchy name usage).value = none := by
  rw [find_value, (hd.get?_eq_none_iff name).mpr hname]
  rcases h with hclass | hnone
  · simp [ClassGraph.toHierarchy, hclass]
  · have hfirst :
        d.entries.find? (inherits g.toHierarchy (TypeName.bare name) usage) = none := by
      rw [List.find?_eq_none]
      intro e he
      rw [inherits_toHierarchy_iff g _ usage (hname e he)]
      exact hnone e he
    simp [hfirst]

end classes

/-- **The matcher over a class graph.**  An entry for the bare name decides: it denies the name
unless it is for type hints only and the name is used structurally.  Without one, a declared name
is denied by the first inheriting entry, whose name the description then carries.  In all other
cases the name is allowed.  Leading backslashes make no difference. -/
theorem find_over_classes {d : Denylist} (hd : d.Built) (g : ClassGraph) (name : String)
    (usage : Usage) :
    (∀ e ∈ d.entries, e.name = TypeName.bare name →
      (e.typeHintOnly = true ∧ usage = .structural →
        (d.find g.toHierarchy name usage).value = none) ∧
      (¬ (e.typeHintOnly = true ∧ usage = .structural) →
        ∃ m, (d.find g.toHierarchy name usage).value = some m ∧ m.entry = e ∧
          m.description = e.description ∧ m.ancestor? = none)) ∧
    ((∀ e ∈ d.entries, e.name ≠ TypeName.bare name) →
      (g.hasClass (TypeName.bare name) = true →
        ∀ e, FirstInherits g (TypeName.bare name) usage d.entries e →
          ∃ m, (d.find g.toHierarchy name usage).value = some m ∧ m.entry = e ∧
            m.ancestor? = some e.name ∧
            m.description = if e.description = "" then "(subclass of " ++ e.name ++ ")"
              else e.description ++ " " ++ ("(subclass of " ++ e.name ++ ")")) ∧
      (g.hasClass (TypeName.bare name) = false ∨
          (∀ e ∈ d.entries, ¬ Inherits g (TypeName.bare name) usage e) →
        (d.find g.toHierarchy name usage).value = none)) ∧
    ∀ k, d.find g.toHierarchy (String.ofList (List.replicate k '\\') ++ name) usage =
      d.find g.toHierarchy name usage := by
  have hwf := hd.wellFormed
  refine ⟨?_, ?_, ?_⟩
  · intro e he hname
    have hvalue := hwf.find_of_entry usage g.toHierarchy he hname
    rw [← Entry.appliesTo_eq_false_iff]
    constructor
    · intro hexempt
      rw [hvalue, hexempt]
      rfl
    · intro happly
      rw [Bool.not_eq_false] at happly
      rw [hvalue, if_pos happly]
      exact ⟨.exact e, rfl, rfl, rfl, rfl⟩
  · intro hname
    refine ⟨?_, hwf.find_of_not_inherits g usage hname⟩
    intro hclass e he
    exact ⟨.inherited e, hwf.find_of_firstInherits g usage hname hclass he, rfl, rfl, rfl⟩
  · intro k
    exact find_bare_congr _ usage d (TypeName.bare_replicate_append k name)

/-- Two classes that are each other's parent, the first of them denied with its subclasses. -/
theorem find_over_classes_cycle :
    ofEntries [{ name := "\\A", description := "old", withSubclasses := true }] =
        .ok ⟨[{ name := "A", description := "old", withSubclasses := true }], [("A", 0)]⟩ ∧
      ∃ m, (find ⟨[{ name := "A", description := "old", withSubclasses := true }], [("A", 0)]⟩
          (ClassGraph.toHierarchy ⟨[⟨"A", ["B"]⟩, ⟨"B", ["A"]⟩]⟩) "\\B" .structural).value = some m ∧
        m.ancestor? = some "A" ∧ m.description = "old (subclass of A)" := by
  have hd : ofEntries [{ name := "\\A", description := "old", withSubclasses := true }] =
      .ok ⟨[{ name := "A", description := "old", withSubclasses := true }], [("A", 0)]⟩ := by decide
  have hspec := find_over_classes (Or.inl ⟨_, hd⟩) ⟨[⟨"A", ["B"]⟩, ⟨"B", ["A"]⟩]⟩ "\\B" .structural
  obtain ⟨m, hm, _, hancestor, hdescription⟩ := (hspec.2.1 (by decide)).1 (by decide) _
    ⟨[], [], rfl, ⟨rfl, Or.inr rfl, by decide, Relation.TransGen.single (by decide)⟩, by simp⟩
  exact ⟨hd, m, hm, hancestor, hdescription⟩

end Denylist

end TypeAudit
