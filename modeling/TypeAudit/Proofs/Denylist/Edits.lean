import TypeAudit.Proofs.Denylist.Precedence

/-! # Lookups in an edited denylist

A denylist is edited by taking an entry out, by appending one, or by putting the entries in another
order.  A lookup reads two things of a denylist: the entry for the bare name, and the first entry
that inherits to it if there is none (`find_congr`).

* Without an entry the positions behind it shift, and the denylist may be left without entries that
  deny subclasses.  A name for which that entry neither stands nor decides is looked up as before
  (`WellFormed.find_without`).
* An entry appended at the end comes after all that decided before, so every match for another name
  stays (`find_appended`).
* In another order the same names are denied (`find_isSome_of_perm`).  The answer can differ only
  where several entries inherit to a name (`find_of_perm`). -/

namespace TypeAudit

theorem Entry.normalize_of_bare {e : Entry} (h : TypeName.bare e.name = e.name) :
    e.normalize = e := by
  unfold Entry.normalize
  rw [h]

theorem NamesAccepted.sublist {names names' : List String} (h : NamesAccepted names)
    (hsub : names'.Sublist names) : NamesAccepted names' :=
  ⟨fun name hname => h.ne_empty name (hsub.subset hname), h.nodup.sublist hsub⟩

theorem NamesAccepted.perm {names names' : List String} (h : NamesAccepted names)
    (hperm : names.Perm names') : NamesAccepted names' :=
  ⟨fun name hname => h.ne_empty name (hperm.mem_iff.mpr hname), hperm.nodup h.nodup⟩

namespace Denylist

/-! ### Two denylists -/

section congr
variable {d d' : Denylist} {h : Hierarchy} {name : String} {usage : Usage}

/-- A lookup of an entry reads only the entries with the bare name. -/
theorem WellFormed.get?_congr (hd : d.WellFormed) (hd' : d'.WellFormed)
    (hmem : ∀ e : Entry, e.name = TypeName.bare name → (e ∈ d'.entries ↔ e ∈ d.entries)) :
    d'.get? name = d.get? name := by
  apply Option.ext
  intro e
  rw [hd.get?_eq_some_iff, hd'.get?_eq_some_iff]
  constructor
  · rintro ⟨he, hname⟩
    exact ⟨(hmem e hname).mp he, hname⟩
  · rintro ⟨he, hname⟩
    exact ⟨(hmem e hname).mpr he, hname⟩

/-- What a lookup reads of a denylist. -/
theorem find_congr (hget : d'.get? name = d.get? name)
    (hfirst : d.get? name = none → h.hasClass (TypeName.bare name) = true →
      d'.entries.find? (inherits h (TypeName.bare name) usage) =
        d.entries.find? (inherits h (TypeName.bare name) usage)) :
    (d'.find h name usage).value = (d.find h name usage).value := by
  rw [find_value, find_value, hget]
  cases hown : d.get? name with
  | some own => rfl
  | none =>
      dsimp only
      split_ifs with hclass
      · rw [hfirst hown hclass]
      · rfl

/-- A match through an ancestor is through one that the hierarchy knows of. -/
theorem mem_ancestors_of_find {e : Entry}
    (hfind : (d.find h name usage).value = some (.inherited e)) :
    e.name ∈ h.ancestors (TypeName.bare name) := by
  have hinherits := List.find?_some (find_eq_inherited_iff.mp hfind).2.2
  unfold inherits at hinherits
  rw [Bool.and_eq_true] at hinherits
  exact List.contains_iff_mem.mp hinherits.2

end congr

/-! ### Taking an entry out -/

section without
variable {d : Denylist} {before after : List Entry} {e : Entry}

/-- What is left can always be built. -/
theorem Built.exists_without (hd : d.Built) (hsplit : d.entries = before ++ e :: after) :
    ∃ rest, ofEntries (before ++ after) = .ok rest ∧ rest.entries = before ++ after := by
  have hsub : (before ++ after).Sublist d.entries := by
    rw [hsplit]
    exact (List.Sublist.refl before).append (List.sublist_cons_self e after)
  have hnames := (exists_ofEntries_iff d.entries).mp ⟨d, hd.ofEntries_entries⟩
  obtain ⟨rest, hrest⟩ := (exists_ofEntries_iff (before ++ after)).mpr
    (hnames.sublist (hsub.map _))
  refine ⟨rest, hrest, ?_⟩
  rw [(ofEntries_eq_ok hrest).2, List.map_congr_left, List.map_id]
  intro a ha
  exact Entry.normalize_of_bare (hd.wellFormed.bare a (hsub.subset ha))

/-- An element that is not the first hit can go. -/
theorem find?_without {p : Entry → Bool} (hne : (before ++ e :: after).find? p ≠ some e) :
    (before ++ after).find? p = (before ++ e :: after).find? p := by
  rw [List.find?_append] at hne
  rw [List.find?_append, List.find?_append]
  cases hbefore : before.find? p with
  | some found => rfl
  | none =>
      rw [hbefore, Option.none_or] at hne
      have hp : ¬ p e = true := fun hp => hne (List.find?_cons_of_pos hp)
      rw [List.find?_cons_of_neg hp]

variable {rest : Denylist} (hd : d.WellFormed) (hrest : rest.WellFormed)
  (hsplit : d.entries = before ++ e :: after) (hentries : rest.entries = before ++ after)
  {name : String} (hname : TypeName.bare name ≠ e.name)
include hd hrest hsplit hentries hname

theorem WellFormed.get?_without : rest.get? name = d.get? name := by
  refine hd.get?_congr hrest ?_
  intro a ha
  have hne : a ≠ e := fun hae => hname (hae ▸ ha.symm)
  rw [hsplit, hentries]
  simp [hne]

theorem WellFormed.find_without {h : Hierarchy} {usage : Usage}
    (hdecides : (d.find h name usage).value ≠ some (.inherited e)) :
    (rest.find h name usage).value = (d.find h name usage).value := by
  refine find_congr (hd.get?_without hrest hsplit hentries hname) ?_
  intro hnone hclass
  rw [hentries, hsplit]
  refine find?_without ?_
  intro hfirst
  rw [← hsplit] at hfirst
  exact hdecides (find_eq_inherited_iff.mpr ⟨hnone, hclass, hfirst⟩)

end without

/-! ### Appending an entry -/

/-- A new entry stands behind all others, so it takes no match from them. -/
theorem find_appended {d grown : Denylist} (hd : d.Built) {new : Entry}
    (hgrown : ofEntries (d.entries ++ [new]) = .ok grown) {h : Hierarchy} {name : String}
    {usage : Usage} {m : Match} (hname : TypeName.bare name ≠ TypeName.bare new.name)
    (hfind : (d.find h name usage).value = some m) :
    (grown.find h name usage).value = some m := by
  obtain ⟨hwf, hentries⟩ := ofEntries_eq_ok hgrown
  have hold : d.entries.map Entry.normalize = d.entries :=
    (ofEntries_eq_ok hd.ofEntries_entries).2.symm
  rw [List.map_append, hold, List.map_singleton] at hentries
  have hget : d.get? name = grown.get? name :=
    hwf.get?_without hd.wellFormed hentries (List.append_nil d.entries).symm hname
  cases m with
  | exact e =>
      rw [find_eq_exact_iff] at hfind ⊢
      rw [← hget]
      exact hfind
  | inherited e =>
      rw [find_eq_inherited_iff] at hfind ⊢
      obtain ⟨hnone, hclass, hfirst⟩ := hfind
      refine ⟨hget.symm.trans hnone, hclass, ?_⟩
      rw [hentries, List.find?_append, hfirst, Option.some_or]

/-! ### Another order -/

section order
variable {es es' : List Entry} (hperm : es.Perm es')
include hperm

theorem exists_ofEntries_of_perm (h : ∃ d, ofEntries es = .ok d) : ∃ d, ofEntries es' = .ok d := by
  rw [exists_ofEntries_iff] at h ⊢
  exact h.perm (hperm.map _)

theorem entries_perm {d d' : Denylist} (hd : ofEntries es = .ok d) (hd' : ofEntries es' = .ok d') :
    d.entries.Perm d'.entries := by
  rw [(ofEntries_eq_ok hd).2, (ofEntries_eq_ok hd').2]
  exact hperm.map _

/-- Where at most one element has a property, it is the first in every order. -/
theorem find?_of_perm {p : Entry → Bool} (hp : es.countP p ≤ 1) : es'.find? p = es.find? p := by
  have hfilter : (es.filter p).Perm (es'.filter p) := hperm.filter p
  rw [List.countP_eq_length_filter] at hp
  rw [← List.head?_filter, ← List.head?_filter]
  congr 1
  cases hes : es.filter p with
  | nil =>
      rw [hes] at hfilter
      exact hfilter.symm.eq_nil
  | cons e rest =>
      have hrest : rest = [] := by
        rw [hes, List.length_cons] at hp
        exact List.length_eq_zero_iff.mp (by omega)
      rw [hes, hrest] at hfilter
      rw [hrest]
      exact List.perm_singleton.mp hfilter.symm

end order

section lookups
variable {d d' : Denylist} (hd : d.WellFormed) (hd' : d'.WellFormed)
  (hperm : d.entries.Perm d'.entries)
include hd hd' hperm

theorem get?_of_perm (name : String) : d'.get? name = d.get? name :=
  hd.get?_congr hd' (fun _ _ => hperm.mem_iff.symm)

theorem find_isSome_of_perm (h : Hierarchy) (name : String) (usage : Usage) :
    (d'.find h name usage).value.isSome = (d.find h name usage).value.isSome := by
  rw [find_value, find_value, get?_of_perm hd hd' hperm]
  cases d.get? name with
  | some own => rfl
  | none =>
      dsimp only
      split_ifs
      · rw [Option.isSome_map, Option.isSome_map, List.isSome_find?, List.isSome_find?]
        exact hperm.symm.any_eq
      · rfl

theorem find_of_perm {h : Hierarchy} {name : String} {usage : Usage}
    (hone : d.entries.countP (inherits h (TypeName.bare name) usage) ≤ 1) :
    (d'.find h name usage).value = (d.find h name usage).value :=
  find_congr (get?_of_perm hd hd' hperm name) (fun _ _ => find?_of_perm hperm hone)

end lookups

end Denylist

end TypeAudit
