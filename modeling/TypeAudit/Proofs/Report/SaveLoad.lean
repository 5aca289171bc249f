import TypeAudit.Proofs.Json.RoundTrip
import TypeAudit.Report.Json

/-! # Saved reports are read back

A report is saved as a JSON object in which each violation is one flat object: the fields of its
diagnostic stand beside its rule and its file.  Reading finds every field by its key among all the
members, so the diagnostic is taken out of the flat object again (`Violation.ofJson?_toJson`), and
with it the whole report (`Report.ofJson?_toJson`).

Every text is saved and read back whatever its characters.  The lines and the number of nodes must
fit 64 bits; then they are also finite in double precision, which is asked of the numbers in a
violation (`isFinite_ofNat`). -/

namespace TypeAudit

/-! ### Numbers that fit 64 bits -/

/-- Rounding to a double at most doubles a natural number. -/
theorem Text.nearestDouble_le (n : Nat) : nearestDouble n ≤ 2 * n := by
  rcases Nat.eq_zero_or_pos n with rfl | hpos
  · decide
  · have hunit : Nat.pow 2 (n.log2 - 52) ≤ n :=
      calc Nat.pow 2 (n.log2 - 52) ≤ 2 ^ n.log2 := Nat.pow_le_pow_right (by omega) (by omega)
        _ ≤ n := Nat.log2_self_le (by omega)
    have hdiv : n / Nat.pow 2 (n.log2 - 52) * Nat.pow 2 (n.log2 - 52) ≤ n := Nat.div_mul_le_self _ _
    unfold nearestDouble
    dsimp only
    split_ifs with hup
    · rw [Nat.add_mul]
      omega
    · omega

namespace Json.Number

theorem toNat?_ofNat {n : Nat} (hn : n < wordBound) : (ofNat n).toNat? = some n := by
  rw [toNat?, if_pos (by simp [ofNat, hn])]
  rfl

theorem isFinite_ofNat {n : Nat} (hn : n < wordBound) : (ofNat n).isFinite = true := by
  have hleading : leading n = (n, 0) := by rw [leading, if_pos hn]
  have hone : Text.nearestDouble (Nat.pow 10 0) = 1 := by decide
  have hbound : 2 * wordBound ≤ Text.overflowBound := by decide +kernel
  have hround : Text.nearestDouble n * Text.nearestDouble (Nat.pow 10 0) < Text.overflowBound := by
    have hle := Text.nearestDouble_le n
    rw [hone]
    omega
  simp only [isFinite, ofNat, hleading, absorb, Option.getD_none]
  show (decide (n = 0) || (decide (0 ≤ 308) && decide (_ < Text.overflowBound))) = true
  rw [decide_eq_true hround]
  simp

end Json.Number

/-! ### Violations -/

namespace Violation

theorem wellFormed_toJson (v : Violation) : v.toJson.WellFormed := by
  simp [toJson, Json.Value.WellFormed, Json.MembersWellFormed, Json.Number.ofNat]

/-- The diagnostic is taken out of the flat object again. -/
theorem ofJson?_toJson {v : Violation} (hline : v.diagnostic.line < Json.Number.wordBound) :
    ofJson? v.toJson = some v := by
  have hfinite := Json.Number.isFinite_ofNat hline
  have hnat := Json.Number.toNat?_ofNat hline
  simp [ofJson?, toJson, Json.Value.isSound, Json.Value.depth, hfinite, Json.only?, SavedField.key,
    Json.Value.text?, Json.Value.nat?, hnat]

end Violation

/-! ### Reports -/

namespace Report

theorem mapM_ofJson? {vs : List Violation}
    (hvs : ∀ v ∈ vs, v.diagnostic.line < Json.Number.wordBound) :
    (vs.map Violation.toJson).mapM Violation.ofJson? = some vs := by
  induction vs with
  | nil => rfl
  | cons v vs ih =>
      have hv := Violation.ofJson?_toJson (hvs v List.mem_cons_self)
      have hrest := ih (fun w hw => hvs w (List.mem_cons_of_mem v hw))
      rw [List.map_cons, List.mapM_cons, hv, hrest]
      rfl

theorem wellFormed_toJson (r : Report) : r.toJson.WellFormed := by
  have helements : ∀ vs : List Violation, Json.ElementsWellFormed (vs.map Violation.toJson) := by
    intro vs
    induction vs with
    | nil => trivial
    | cons v vs ih => exact ⟨v.wellFormed_toJson, ih⟩
  simp [toJson, Json.Value.WellFormed, Json.MembersWellFormed, Json.Number.ofNat, helements]

theorem ofJson?_toJson {r : Report}
    (hlines : ∀ v ∈ r.violations, v.diagnostic.line < Json.Number.wordBound)
    (hnodes : r.nodesChecked < Json.Number.wordBound) : ofJson? r.toJson = some r := by
  have hvs := mapM_ofJson? hlines
  have hnat := Json.Number.toNat?_ofNat hnodes
  simp [ofJson?, toJson, Json.only?, SavedField.key, ofFields?, hvs, Json.Value.nat?, hnat]

/-- **A saved report is read back.**  The saved text is that of a JSON object whose violations are
flat objects, the fields of the diagnostic beside rule and file, in the order of the report; and
reading it gives an equal report, whatever the characters of its texts, if its lines and its number
of nodes fit 64 bits. -/
theorem load_save (r : Report) (hlines : ∀ v ∈ r.violations, v.diagnostic.line < 2 ^ 64)
    (hnodes : r.nodesChecked < 2 ^ 64) :
    Json.parse? r.save.toList = some (.object
      [(some "violations", .array (r.violations.map (fun v => .object
        [(some "rule", .string (some v.rule)),
         (some "file", .string (some v.file)),
         (some "message", .string (some v.diagnostic.message)),
         (some "identifier", .string (some v.diagnostic.identifier)),
         (some "line", .number (.ofNat v.diagnostic.line))]))),
       (some "nodes_checked", .number (.ofNat r.nodesChecked))]) ∧
    load? r.save = some r := by
  have hparse : Json.parse? r.save.toList = some r.toJson := by
    rw [save, String.toList_ofList]
    exact Json.parse?_render r.wellFormed_toJson
  refine ⟨hparse, ?_⟩
  rw [load?, hparse]
  exact ofJson?_toJson hlines hnodes

/-- Texts with quotes, backslashes, controls and characters beyond ASCII, and the greatest line. -/
theorem load_save_escapes :
    let r : Report :=
      { violations :=
          [{ rule := "\"\\/", file := "a\u0001\u001f\t\x7f.php",
             diagnostic := { message := "é\n\r€😀", identifier := "", line := 2 ^ 64 - 1 } },
           { rule := "rule", file := "\x7b\"line\":0\x7d",
             diagnostic := { message := "\u0000\\u0041", identifier := "i", line := 0 } }]
        nodesChecked := 2 ^ 64 - 1 }
    (∀ v ∈ r.violations, v.diagnostic.line < 2 ^ 64) ∧ r.nodesChecked < 2 ^ 64 ∧
      load? r.save = some r := by
  intro r
  have hlines : ∀ v ∈ r.violations, v.diagnostic.line < 2 ^ 64 := by decide
  have hnodes : r.nodesChecked < 2 ^ 64 := by decide
  exact ⟨hlines, hnodes, (load_save r hlines hnodes).2⟩

end Report

end TypeAudit
