import TypeAudit.Proofs.Denylist.Matching

/-! # What a lookup asks of the hierarchy

`script` lists the questions that looking a name up puts to the class hierarchy, in their order and
without running the lookup.  Nothing is asked if an entry has the name, or if no entry denies
subclasses.  Otherwise the first question is whether the name is a known class.  If it is, the
entries that can deny it (`candidates`) are gone through in their order up to the first from which
the name descends (`consulted`); for each of them the type is asked for, and then the ancestors of
the name if the type is known (`inquiry`).

`WellFormed.find_queries` says that these are the questions of `find`.  Where no entry denies
subclasses the lookup is the same over every hierarchy (`find_of_no_subclass_entries`). -/

namespace TypeAudit.Denylist

/-! ### The script -/

/-- The entries that deny subclasses in this usage, in order. -/
def candidates (usage : Usage) (es : List Entry) : List Entry :=
  es.filter (fun e => e.withSubclasses && e.appliesTo usage)

section script
variable (h : Hierarchy) (name : String)

/-- The type of the entry is known and stands among the ancestors of `name`. -/
def settles (e : Entry) : Bool := h.hasClass e.name && (h.ancestors name).contains e.name

/-- The questions about one entry. -/
def inquiry (e : Entry) : List Query :=
  .hasClass e.name :: if h.hasClass e.name then [.ancestors name] else []

variable (usage : Usage)

/-- The candidates up to the first that settles the matter, or all of them. -/
def consulted (es : List Entry) : List Entry :=
  (candidates usage es).take ((candidates usage es).findIdx (settles h name) + 1)

/-- The questions of a lookup of the bare name `name` among some entries. -/
def script (es : List Entry) : List Query :=
  if (∃ e ∈ es, e.name = name) ∨ (∀ e ∈ es, e.withSubclasses = false) then []
  else if h.hasClass name then
    .hasClass name :: (consulted h name usage es).flatMap (inquiry h name)
  else [.hasClass name]

/-! ### Going through the entries -/

variable {e : Entry}

theorem consulted_of_not_candidate (hcandidate : ¬ (e.withSubclasses && e.appliesTo usage) = true)
    (es : List Entry) : consulted h name usage (e :: es) = consulted h name usage es := by
  unfold consulted candidates
  rw [List.filter_cons, if_neg hcandidate]

/-- A candidate is consulted, and those after it only if it does not settle the matter. -/
theorem consulted_of_candidate (hcandidate : (e.withSubclasses && e.appliesTo usage) = true)
    (es : List Entry) :
    consulted h name usage (e :: es) =
      e :: if settles h name e then [] else consulted h name usage es := by
  unfold consulted candidates
  rw [List.filter_cons, if_pos hcandidate, List.findIdx_cons]
  cases settles h name e <;> rfl

theorem firstInherited_queries (es : List Entry) :
    (firstInherited h name usage es).queries =
      (consulted h name usage es).flatMap (inquiry h name) := by
  induction es with
  | nil => rfl
  | cons e es ih =>
      unfold firstInherited
      by_cases hcandidate : (e.withSubclasses && e.appliesTo usage) = true
      · have hsettles : settles h name e = (h.hasClass e.name && h.isSubclass name e.name) := rfl
        rw [if_pos hcandidate, consulted_of_candidate h name usage hcandidate, List.flatMap_cons,
          hsettles]
        cases hclass : h.hasClass e.name with
        | false => simp [inquiry, hclass, ih]
        | true => cases hsub : h.isSubclass name e.name <;> simp [inquiry, hclass, hsub, ih]
      · rw [if_neg hcandidate, consulted_of_not_candidate h name usage hcandidate, ih]

end script

/-! ### Looking a name up -/

section lookup
variable (h : Hierarchy) (name : String) (usage : Usage)

theorem hasSubclassEntries_eq_false_iff (d : Denylist) :
    d.hasSubclassEntries = false ↔ ∀ e ∈ d.entries, e.withSubclasses = false := by
  simp [hasSubclassEntries]

/-- Without entries that deny subclasses, an entry for the bare name decides and the hierarchy has
no part in it. -/
theorem find_of_no_subclass_entries {d : Denylist}
    (hsub : ∀ e ∈ d.entries, e.withSubclasses = false) :
    d.find h name usage =
      pure ((d.get? name).bind (fun e => if e.appliesTo usage then some (.exact e) else none)) := by
  have hnone := (hasSubclassEntries_eq_false_iff d).mpr hsub
  unfold find
  simp only [get?_bare, hnone, Bool.false_eq_true, if_false]
  cases d.get? name <;> rfl

theorem find_queries_of_get?_eq_none {d : Denylist} (hget : d.get? name = none)
    (hsub : d.hasSubclassEntries = true) :
    (d.find h name usage).queries = .hasClass (TypeName.bare name) ::
      if h.hasClass (TypeName.bare name) then
        (consulted h (TypeName.bare name) usage d.entries).flatMap (inquiry h (TypeName.bare name))
      else [] := by
  rw [← firstInherited_queries]
  unfold find
  simp only [get?_bare, hget, hsub, if_true]
  cases hclass : h.hasClass (TypeName.bare name) with
  | false => simp [hclass]
  | true =>
      cases hfirst : (firstInherited h (TypeName.bare name) usage d.entries).value <;>
        simp [hclass, hfirst]

/-- The questions of a lookup are those of the script. -/
theorem WellFormed.find_queries {d : Denylist} (hd : d.WellFormed) :
    (d.find h name usage).queries = script h (TypeName.bare name) usage d.entries := by
  unfold script
  split_ifs with hidle hclass
  · rcases hidle with ⟨e, he, hname⟩ | hsub
    · have hget := (hd.get?_eq_some_iff name e).mpr ⟨he, hname⟩
      unfold find
      simp only [get?_bare, hget, Traced.queries_pure]
    · rw [find_of_no_subclass_entries h name usage hsub, Traced.queries_pure]
  all_goals
    push Not at hidle
    obtain ⟨hname, hsub⟩ := hidle
    have hget : d.get? name = none := (hd.get?_eq_none_iff name).mpr hname
    have hsubclass : d.hasSubclassEntries = true := by
      obtain ⟨e, he, hsub⟩ := hsub
      exact List.any_eq_true.mpr ⟨e, he, by simpa using hsub⟩
    rw [find_queries_of_get?_eq_none h name usage hget hsubclass]
  · rw [if_pos hclass]
  · rw [if_neg hclass]

end lookup

end TypeAudit.Denylist
