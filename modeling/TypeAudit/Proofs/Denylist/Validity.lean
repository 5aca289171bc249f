import Mathlib.Data.List.Induction
import Mathlib.Data.List.Nodup
import TypeAudit.Denylist.Table

/-! # Which denylists can be built

A denylist is built by appending entries one after the other.  Whether that succeeds depends on
the bare names alone: none may be empty (`NameFault.empty`) and none may stand twice
(`NameFault.duplicate`).  The first name at fault decides the error.

* `push_eq_ok_iff` and `push_eq_error_iff` say what appending one entry does, `WellFormed.push`
  that it keeps the index in step with the entries.
* `ofEntries_eq_ok`, `exists_ofEntries_iff` and `ofEntries_eq_error_iff` say the same of a whole
  list of entries.
* `WellFormed.get?_eq_some_iff` is the meaning of a lookup in a denylist that was built. -/

namespace TypeAudit

@[simp] theorem Entry.normalize_name (e : Entry) : e.normalize.name = TypeName.bare e.name := rfl

/-! ### Names at fault -/

/-- `name` cannot follow the names in `earlier`. -/
inductive NameFault (earlier : List String) : String → DenylistError → Prop
  | empty : NameFault earlier "" .emptyName
  | duplicate {name : String} (hne : name ≠ "") (hmem : name ∈ earlier) :
      NameFault earlier name (.duplicate name)

/-- The names can stand together in a denylist. -/
structure NamesAccepted (names : List String) : Prop where
  ne_empty : ∀ name ∈ names, name ≠ ""
  nodup : names.Nodup

/-- The first name at fault, after names that are not, gives the error. -/
def FirstNameFault (names : List String) (error : DenylistError) : Prop :=
  ∃ before name after, names = before ++ name :: after ∧ NamesAccepted before ∧
    NameFault before name error

theorem namesAccepted_nil : NamesAccepted [] :=
  ⟨fun _ h => absurd h List.not_mem_nil, List.nodup_nil⟩

theorem not_firstNameFault_nil (error : DenylistError) : ¬ FirstNameFault [] error := by
  rintro ⟨before, name, after, h, _⟩
  simp at h

theorem namesAccepted_append_singleton (names : List String) (name : String) :
    NamesAccepted (names ++ [name]) ↔ NamesAccepted names ∧ name ≠ "" ∧ name ∉ names := by
  constructor
  · rintro ⟨hne, hnd⟩
    rw [List.nodup_append] at hnd
    obtain ⟨hnd, _, hdisj⟩ := hnd
    refine ⟨⟨fun a ha => hne a (List.mem_append_left _ ha), hnd⟩, ?_, ?_⟩
    · exact hne name (List.mem_append_right _ (List.mem_singleton_self name))
    · intro hmem
      exact hdisj name hmem name (List.mem_singleton_self name) rfl
  · rintro ⟨⟨hne, hnd⟩, hname, hmem⟩
    refine ⟨?_, List.nodup_append.mpr ⟨hnd, List.nodup_singleton name, ?_⟩⟩
    · intro a ha
      rcases List.mem_append.mp ha with ha | ha
      · exact hne a ha
      · rw [List.mem_singleton.mp ha]; exact hname
    · intro a ha b hb e
      rw [List.mem_singleton.mp hb] at e
      exact hmem (e ▸ ha)

theorem firstNameFault_append_singleton (names : List String) (name : String)
    (error : DenylistError) :
    FirstNameFault (names ++ [name]) error ↔
      FirstNameFault names error ∨ (NamesAccepted names ∧ NameFault names name error) := by
  constructor
  · rintro ⟨before, fault, after, h, haccepted, hfault⟩
    rcases List.eq_nil_or_concat after with rfl | ⟨rest, last, rfl⟩
    · obtain ⟨rfl, hlast⟩ := List.append_inj' h rfl
      obtain rfl : name = fault := by simpa using hlast
      exact Or.inr ⟨haccepted, hfault⟩
    · rw [List.concat_eq_append, ← List.cons_append, ← List.append_assoc] at h
      obtain ⟨rfl, _⟩ := List.append_inj' h rfl
      exact Or.inl ⟨before, fault, rest, rfl, haccepted, hfault⟩
  · rintro (⟨before, fault, after, rfl, haccepted, hfault⟩ | ⟨haccepted, hfault⟩)
    · exact ⟨before, fault, after ++ [name], by simp, haccepted, hfault⟩
    · exact ⟨names, name, [], rfl, haccepted, hfault⟩

/-- A name can be appended unless it is at fault. -/
theorem nameFault_iff (earlier : List String) (name : String) :
    (∃ error, NameFault earlier name error) ↔ name = "" ∨ name ∈ earlier := by
  constructor
  · rintro ⟨error, h⟩
    cases h with
    | empty => exact Or.inl rfl
    | duplicate _ hmem => exact Or.inr hmem
  · intro h
    by_cases hname : name = ""
    · subst hname
      exact ⟨_, .empty⟩
    · exact ⟨_, .duplicate hname (h.resolve_left hname)⟩

namespace Denylist

/-! ### The representation -/

def names (d : Denylist) : List String := d.entries.map (·.name)

/-- The index holds the position of every name, and nothing else. -/
def Indexes (index : List (String × Nat)) (names : List String) : Prop :=
  ∀ name i, index.lookup name = some i ↔ names[i]? = some name

/-- A new name goes to the end, so its position is the number of names before it. -/
theorem Indexes.append_singleton {index : List (String × Nat)} {names : List String}
    {new : String} (h : Indexes index names) (hnew : new ∉ names) :
    Indexes ((new, names.length) :: index) (names ++ [new]) := by
  intro name i
  rw [List.lookup_cons, List.getElem?_append]
  by_cases hname : name = new
  · subst hname
    rw [beq_self_eq_true]
    split_ifs with hi
    · constructor
      · intro h
        cases h
        omega
      · intro h
        exact absurd (List.mem_of_getElem? h) hnew
    · have hlast : i - names.length = 0 ↔ names.length = i := by omega
      simp [List.getElem?_singleton, hlast]
  · rw [beq_false_of_ne hname]
    refine (h name i).trans ?_
    split_ifs with hi
    · rfl
    · rw [List.getElem?_eq_none (Nat.le_of_not_lt hi), List.getElem?_singleton]
      simp [Ne.symm hname]

/-- The entries have distinct bare names that are not empty, and the index holds the position of
each of them and nothing else. -/
structure WellFormed (d : Denylist) : Prop where
  bare : ∀ e ∈ d.entries, TypeName.bare e.name = e.name
  accepted : NamesAccepted d.names
  indexes : Indexes d.index d.names

theorem wellFormed_empty : empty.WellFormed := by
  refine ⟨fun e he => absurd he List.not_mem_nil, namesAccepted_nil, ?_⟩
  intro name i
  simp [empty, names]

namespace WellFormed

variable {d : Denylist} (hd : d.WellFormed)
include hd

theorem position?_isSome_iff (name : String) :
    (d.position? name).isSome = true ↔ name ∈ d.names := by
  rw [Option.isSome_iff_exists, List.mem_iff_getElem?]
  exact exists_congr (hd.indexes name)

/-- A lookup finds the entry with the bare name. -/
theorem get?_eq_some_iff (name : String) (e : Entry) :
    d.get? name = some e ↔ e ∈ d.entries ∧ e.name = TypeName.bare name := by
  unfold get?
  rw [Option.bind_eq_some_iff]
  constructor
  · rintro ⟨i, hi, he⟩
    have hname := (hd.indexes _ _).mp hi
    rw [names, List.getElem?_map, he, Option.map_some, Option.some.injEq] at hname
    exact ⟨List.mem_of_getElem? he, hname⟩
  · rintro ⟨hmem, hname⟩
    obtain ⟨i, hi⟩ := List.mem_iff_getElem?.mp hmem
    refine ⟨i, (hd.indexes _ _).mpr ?_, hi⟩
    rw [names, List.getElem?_map, hi, Option.map_some, hname]

theorem get?_eq_none_iff (name : String) :
    d.get? name = none ↔ ∀ e ∈ d.entries, e.name ≠ TypeName.bare name := by
  rw [Option.eq_none_iff_forall_ne_some]
  constructor
  · intro h e he hname
    exact h e ((hd.get?_eq_some_iff name e).mpr ⟨he, hname⟩)
  · intro h e he
    obtain ⟨hmem, hname⟩ := (hd.get?_eq_some_iff name e).mp he
    exact h e hmem hname

/-! ### Appending one entry -/

theorem push_eq_ok_iff (e : Entry) (d' : Denylist) :
    d.push e = .ok d' ↔ (TypeName.bare e.name ≠ "" ∧ TypeName.bare e.name ∉ d.names) ∧
      d' = ⟨d.entries ++ [e.normalize], (TypeName.bare e.name, d.entries.length) :: d.index⟩ := by
  unfold push
  simp only [Entry.normalize_name, hd.position?_isSome_iff]
  split_ifs with hempty hmem
  · simp [hempty]
  · simp [hmem]
  · simp only [Except.ok.injEq, ne_eq, hempty, not_false_eq_true, hmem, true_and]
    exact eq_comm

theorem push_eq_error_iff (e : Entry) (error : DenylistError) :
    d.push e = .error error ↔ NameFault d.names (TypeName.bare e.name) error := by
  unfold push
  simp only [Entry.normalize_name, hd.position?_isSome_iff]
  constructor
  · intro h
    split_ifs at h with hempty hmem
    · cases h
      rw [hempty]
      exact .empty
    · cases h
      exact .duplicate hempty hmem
  · intro h
    split_ifs with hempty hmem
    · rw [hempty] at h
      cases h with
      | empty => rfl
      | duplicate hne _ => exact absurd rfl hne
    · generalize TypeName.bare e.name = name at h hempty
      cases h with
      | empty => exact absurd rfl hempty
      | duplicate _ _ => rfl
    · rcases (nameFault_iff _ _).mp ⟨error, h⟩ with h | h
      · exact absurd h hempty
      · exact absurd h hmem

theorem push {e : Entry} {d' : Denylist} (h : d.push e = .ok d') : d'.WellFormed := by
  obtain ⟨⟨hne, hnew⟩, rfl⟩ := (hd.push_eq_ok_iff e d').mp h
  have hnames : names ⟨d.entries ++ [e.normalize], (TypeName.bare e.name, d.entries.length) ::
      d.index⟩ = d.names ++ [TypeName.bare e.name] := by simp [names]
  have hlen : d.entries.length = d.names.length := (List.length_map _).symm
  refine ⟨?_, ?_, ?_⟩
  · intro a ha
    rcases List.mem_append.mp ha with ha | ha
    · exact hd.bare a ha
    · rw [List.mem_singleton.mp ha, Entry.normalize_name, TypeName.bare_bare]
  · rw [hnames]
    exact (namesAccepted_append_singleton d.names _).mpr ⟨hd.accepted, hne, hnew⟩
  · rw [hnames, hlen]
    exact hd.indexes.append_singleton hnew

end WellFormed

/-! ### Building from a list of entries -/

theorem ofEntries_append_singleton (es : List Entry) (e : Entry) :
    ofEntries (es ++ [e]) = (ofEntries es).bind (·.push e) := by
  unfold ofEntries
  rw [List.foldlM_append]
  cases List.foldlM Denylist.push empty es with
  | error error => rfl
  | ok d =>
      show (d.push e).bind _ = d.push e
      cases d.push e <;> rfl

/-- What was built holds the entries in their order, under their bare names. -/
theorem ofEntries_eq_ok {es : List Entry} {d : Denylist} (h : ofEntries es = .ok d) :
    d.WellFormed ∧ d.entries = es.map Entry.normalize := by
  induction es using List.reverseRecOn generalizing d with
  | nil =>
      cases h
      exact ⟨wellFormed_empty, rfl⟩
  | append_singleton es e ih =>
      rw [ofEntries_append_singleton] at h
      cases hes : ofEntries es with
      | error error => rw [hes] at h; cases h
      | ok d₀ =>
          rw [hes] at h
          obtain ⟨hd₀, hentries⟩ := ih hes
          refine ⟨hd₀.push h, ?_⟩
          rw [((hd₀.push_eq_ok_iff e d).mp h).2, hentries, List.map_append]
          rfl

def bareNames (es : List Entry) : List String := es.map (fun e => TypeName.bare e.name)

theorem bareNames_append_singleton (es : List Entry) (e : Entry) :
    bareNames (es ++ [e]) = bareNames es ++ [TypeName.bare e.name] := by
  simp [bareNames]

theorem names_of_ofEntries {es : List Entry} {d : Denylist} (h : ofEntries es = .ok d) :
    d.names = bareNames es := by
  rw [names, (ofEntries_eq_ok h).2, bareNames, List.map_map]
  rfl

theorem exists_ofEntries_iff (es : List Entry) :
    (∃ d, ofEntries es = .ok d) ↔ NamesAccepted (bareNames es) := by
  induction es using List.reverseRecOn with
  | nil => exact ⟨fun _ => namesAccepted_nil, fun _ => ⟨empty, rfl⟩⟩
  | append_singleton es e ih =>
      rw [bareNames_append_singleton, namesAccepted_append_singleton, ← ih,
        ofEntries_append_singleton]
      cases hes : ofEntries es with
      | error error => simp [Except.bind]
      | ok d =>
          simp only [Except.bind, (ofEntries_eq_ok hes).1.push_eq_ok_iff, names_of_ofEntries hes]
          simp

theorem ofEntries_eq_error_iff (es : List Entry) (error : DenylistError) :
    ofEntries es = .error error ↔ FirstNameFault (bareNames es) error := by
  induction es using List.reverseRecOn with
  | nil =>
      refine ⟨fun h => ?_, fun h => absurd h (not_firstNameFault_nil error)⟩
      cases h
  | append_singleton es e ih =>
      rw [bareNames_append_singleton, firstNameFault_append_singleton, ← ih,
        ← exists_ofEntries_iff, ofEntries_append_singleton]
      cases hes : ofEntries es with
      | error first => simp [Except.bind]
      | ok d =>
          simp only [Except.bind, (ofEntries_eq_ok hes).1.push_eq_error_iff,
            names_of_ofEntries hes]
          simp

/-- The denylist was built from entries or from a configuration table. -/
def Built (d : Denylist) : Prop :=
  (∃ es, ofEntries es = .ok d) ∨ ∃ table, ofTable table = .ok d

theorem built_empty : empty.Built := Or.inl ⟨[], rfl⟩

theorem Built.wellFormed {d : Denylist} (h : d.Built) : d.WellFormed := by
  rcases h with ⟨es, h⟩ | ⟨table, h⟩
  · exact (ofEntries_eq_ok h).1
  · unfold ofTable at h
    cases hes : Entry.ofValues table with
    | error error => rw [hes] at h; cases h
    | ok es =>
        rw [hes] at h
        exact (ofEntries_eq_ok h).1

end Denylist

end TypeAudit
