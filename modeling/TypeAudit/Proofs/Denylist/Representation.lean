import TypeAudit.Proofs.Denylist.Table

/-! # The representation of a denylist

A denylist keeps its entries twice over: in a list, and as positions in an index.  However it was
built, the two agree (`WellFormed`, from `Built.wellFormed`), so a position from the index is never
beyond the list.

What is stored are the entries of the input under their bare names, in the order of the input.
Appending an entry reads no more of its name than the bare name (`push_normalize`), so it makes no
difference in which spelling the names of the input stand (`ofEntries_congr`), and building again
from the stored entries gives the same denylist (`Built.ofEntries_entries`). -/

namespace TypeAudit

theorem Entry.normalize_normalize (e : Entry) : e.normalize.normalize = e.normalize := by
  simp [Entry.normalize]

namespace Denylist

/-! ### Spellings of the input -/

theorem push_normalize (d : Denylist) (e : Entry) : d.push e.normalize = d.push e := by
  unfold push
  rw [Entry.normalize_normalize]

theorem ofEntries_map_normalize (es : List Entry) :
    ofEntries (es.map Entry.normalize) = ofEntries es := by
  unfold ofEntries
  rw [List.foldlM_map]
  simp only [push_normalize]

/-- Entries under other spellings of the same names build the same denylist, or fail alike. -/
theorem ofEntries_congr {es es' : List Entry}
    (h : es'.map Entry.normalize = es.map Entry.normalize) : ofEntries es' = ofEntries es := by
  rw [← ofEntries_map_normalize es', h, ofEntries_map_normalize]

theorem map_normalize_of_spellings {es es' : List Entry}
    (h : List.Forall₂ (fun e e' => e' = e ∨ e' = e.normalize) es es') :
    es'.map Entry.normalize = es.map Entry.normalize := by
  induction h with
  | nil => rfl
  | cons he _ ih =>
      rw [List.map_cons, List.map_cons, ih]
      rcases he with rfl | rfl
      · rfl
      · rw [Entry.normalize_normalize]

/-! ### Building again -/

/-- A denylist read from a table was built from the entries of the table. -/
theorem Built.exists_ofEntries {d : Denylist} (hd : d.Built) : ∃ es, ofEntries es = .ok d := by
  rcases hd with h | ⟨table, h⟩
  · exact h
  · have hshaped := ((exists_ofTable_iff table).mp ⟨d, h⟩).1
    rw [ofTable_of_wellShaped hshaped] at h
    exact ⟨_, h⟩

theorem Built.ofEntries_entries {d : Denylist} (hd : d.Built) : ofEntries d.entries = .ok d := by
  obtain ⟨es, hes⟩ := hd.exists_ofEntries
  rw [(ofEntries_eq_ok hes).2, ofEntries_map_normalize, hes]

theorem WellFormed.position?_eq_some_iff {d : Denylist} (hd : d.WellFormed) (name : String)
    (i : Nat) : d.position? name = some i ↔ ∃ e, d.entries[i]? = some e ∧ e.name = name := by
  refine (hd.indexes name i).trans ?_
  rw [names, List.getElem?_map, Option.map_eq_some_iff]

/-- **The representation of a denylist**, whichever way it was built.  The stored names are bare,
not empty and distinct; the index holds the position of every stored name and nothing else; the
entries are those of the input in their order; and a lookup gives the one entry with the bare name.
Building again from the stored entries changes nothing, and whether the entries of an input come
under their bare names never matters. -/
theorem built_representation {d : Denylist} (hd : d = empty ∨ d.Built) :
    (∀ e ∈ d.entries, e.name ≠ "" ∧ e.name.toList.head? ≠ some '\\') ∧
    (d.entries.map (·.name)).Nodup ∧
    (∀ name i, d.position? name = some i ↔ ∃ e, d.entries[i]? = some e ∧ e.name = name) ∧
    (∀ name i, d.position? name = some i → i < d.entries.length) ∧
    (∀ es, ofEntries es = .ok d → d.entries = es.map Entry.normalize) ∧
    (∀ table, ofTable table = .ok d →
      d.entries = table.map (fun kv => Entry.configured kv.1 kv.2)) ∧
    (∀ name e, d.get? name = some e ↔ e ∈ d.entries ∧ e.name = TypeName.bare name) ∧
    (∀ name, d.get? name = none ↔ ∀ e ∈ d.entries, e.name ≠ TypeName.bare name) ∧
    ofEntries d.entries = .ok d ∧
    ∀ es es', List.Forall₂ (fun e e' => e' = e ∨ e' = e.normalize) es es' →
      ofEntries es' = ofEntries es := by
  have hbuilt : d.Built := hd.elim (fun h => h ▸ built_empty) id
  have hwf := hbuilt.wellFormed
  refine ⟨?_, hwf.accepted.nodup, hwf.position?_eq_some_iff, ?_,
    fun es h => (ofEntries_eq_ok h).2, fun table h => entries_of_ofTable h, hwf.get?_eq_some_iff,
    hwf.get?_eq_none_iff, hbuilt.ofEntries_entries,
    fun es es' h => ofEntries_congr (map_normalize_of_spellings h)⟩
  · intro e he
    exact ⟨hwf.accepted.ne_empty _ (List.mem_map_of_mem he),
      (TypeName.bare_eq_self_iff e.name).mp (hwf.bare e he)⟩
  · intro name i hi
    obtain ⟨e, he, _⟩ := (hwf.position?_eq_some_iff name i).mp hi
    exact (List.getElem?_eq_some_iff.mp he).1

/-- A table with a qualified name, looked up under another spelling. -/
theorem built_representation_qualified :
    let d : Denylist :=
      ⟨[{ name := "B" }, { name := "A", description := "old" }], [("A", 1), ("B", 0)]⟩
    ofTable [("B", .table []), ("\\A", .string "old")] = .ok d ∧
      d.get? "\\\\A" = some { name := "A", description := "old" } ∧
      ofEntries d.entries = .ok d := by
  intro d
  have hd : ofTable [("B", .table []), ("\\A", .string "old")] = .ok d := by rfl
  obtain ⟨_, _, _, _, _, _, hget, _, hagain, _⟩ :=
    built_representation (d := d) (Or.inr (Or.inr ⟨_, hd⟩))
  exact ⟨hd, (hget _ _).mpr ⟨by decide, by decide⟩, hagain⟩

end Denylist

end TypeAudit
