import Mathlib.Data.List.Forall2
import TypeAudit.Proofs.DocComment.TagLine

/-! # Line ends do not move tags

A comment can end its lines in line feeds, or in a carriage return and a line feed each
(`withReturns`).  Reading lines drops one carriage return before a line feed, so a line of the first
text that already ended in one has it in the second: line by line the two texts are the same up to a
carriage return at the end (`forall₂_lines_withReturns`).

Such a carriage return is seen by the search for a tag and the scan for variables, and changes
neither.  It is no word character, so it ends a word as the end of the line does
(`wordEnd_append_return_iff`), and no tag and no variable ends in one
(`exists_of_append_eq_append_return`).  Hence every tag is found on the same line
(`tagLine_withReturns`). -/

namespace TypeAudit.Text

/-- The text with a carriage return before every line feed. -/
def withReturns (cs : List Char) : List Char :=
  cs.flatMap (fun c => if c = '\n' then ['\r', '\n'] else [c])

/-- The lines are equal, up to a carriage return at the end of the second. -/
def SameUpToReturn (line line' : List Char) : Prop := line' = line ∨ line' = line ++ ['\r']

theorem withReturns_newline (cs : List Char) :
    withReturns ('\n' :: cs) = '\r' :: '\n' :: withReturns cs := rfl

theorem withReturns_cons_of_ne {c : Char} (hc : c ≠ '\n') (cs : List Char) :
    withReturns (c :: cs) = c :: withReturns cs := by
  simp [withReturns, hc]

/-- Every line feed has a carriage return before it, also the first. -/
theorem withReturns_ne_newline_cons (cs rest : List Char) : withReturns cs ≠ '\n' :: rest := by
  intro h
  cases cs with
  | nil => cases h
  | cons c cs =>
      by_cases hc : c = '\n'
      · subst hc
        simp [withReturns_newline] at h
      · rw [withReturns_cons_of_ne hc, List.cons.injEq] at h
        exact hc h.1

/-- A character that belongs to no line end stands at the front of the first line. -/
theorem lines_cons {c : Char} {cs : List Char} (hc : c ≠ '\n')
    (hreturn : ∀ rest, c = '\r' → cs = '\n' :: rest → False) :
    lines (c :: cs) =
      match lines cs with
      | [] => [[c]]
      | line :: rest => (c :: line) :: rest :=
  lines.eq_4 c cs hc hreturn

theorem SameUpToReturn.cons {line line' : List Char} (h : SameUpToReturn line line') (c : Char) :
    SameUpToReturn (c :: line) (c :: line') := by
  rcases h with rfl | rfl
  · exact Or.inl rfl
  · exact Or.inr rfl

/-- A carriage return before every line feed adds at most one at the end of a line: of two in a row
only the second goes with the line feed. -/
theorem forall₂_lines_withReturns (cs : List Char) :
    List.Forall₂ SameUpToReturn (lines cs) (lines (withReturns cs)) := by
  fun_induction lines cs with
  | case1 => exact .nil
  | case2 cs ih => exact .cons (Or.inl rfl) ih
  | case3 cs ih =>
      have hlines : lines (withReturns ('\r' :: '\n' :: cs)) =
          ['\r'] :: lines (withReturns cs) := by
        rw [withReturns_cons_of_ne (by decide), withReturns_newline,
          lines_cons (by decide) (by simp)]
        rfl
      rw [hlines]
      exact .cons (Or.inr rfl) ih
  | case4 c cs hnewline hreturn hlines ih =>
      rw [hlines] at ih
      cases hlines' : lines (withReturns cs) with
      | cons line rest => simp [hlines'] at ih
      | nil =>
          rw [withReturns_cons_of_ne hnewline, lines_cons hnewline
            (fun rest _ h => withReturns_ne_newline_cons cs rest h), hlines']
          exact .cons (Or.inl rfl) .nil
  | case5 c cs hnewline hreturn line rest hlines ih =>
      rw [hlines] at ih
      cases hlines' : lines (withReturns cs) with
      | nil => simp [hlines'] at ih
      | cons line' rest' =>
          rw [hlines', List.forall₂_cons] at ih
          rw [withReturns_cons_of_ne hnewline, lines_cons hnewline
            (fun rest _ h => withReturns_ne_newline_cons cs rest h), hlines']
          exact .cons (ih.1.cons c) ih.2

theorem isWord_return : isWord '\r' = false := rfl

end TypeAudit.Text

namespace TypeAudit.DocComment

/-! ### A carriage return at the end of a line -/

/-- What does not end in a carriage return stands before the one at the end of the line. -/
theorem exists_of_append_eq_append_return {front rest line : List Char}
    (hfront : front.getLast? ≠ some '\r') (h : line ++ ['\r'] = front ++ rest) :
    ∃ rest', rest = rest' ++ ['\r'] ∧ line = front ++ rest' := by
  rcases List.eq_nil_or_concat rest with rfl | ⟨rest', c, rfl⟩
  · rw [List.append_nil] at h
    rw [← h, List.getLast?_append] at hfront
    exact absurd rfl hfront
  · rw [List.concat_eq_append, ← List.append_assoc] at h
    obtain ⟨hline, hreturn⟩ := List.append_inj' h rfl
    cases hreturn
    exact ⟨rest', List.concat_eq_append, hline⟩

theorem wordEnd_append_return_iff (rest : List Char) :
    WordEnd (rest ++ ['\r']) ↔ WordEnd rest := by
  rw [← endsWord_iff, ← endsWord_iff]
  cases rest with
  | nil => simp [endsWord, Text.isWord_return]
  | cons c cs => rfl

theorem names_append_return_iff (name text : List Char) :
    Names name (text ++ ['\r']) ↔ Names name text := by
  constructor
  · rintro ⟨hne, hword, before, after, htext, hend⟩
    have hlast : (before ++ '$' :: name).getLast? ≠ some '\r' := by
      intro hlast
      rw [List.getLast?_append, List.getLast?_cons_of_ne_nil hne,
        List.getLast?_eq_some_getLast hne] at hlast
      have hreturn := hword _ (List.getLast_mem hne)
      rw [Option.some_or, Option.some.injEq] at hlast
      rw [hlast, Text.isWord_return] at hreturn
      cases hreturn
    have hsplit : text ++ ['\r'] = (before ++ '$' :: name) ++ after := by
      rw [htext, List.append_assoc, List.cons_append]
    obtain ⟨after', rfl, rfl⟩ := exists_of_append_eq_append_return hlast hsplit
    refine ⟨hne, hword, before, after', ?_, (wordEnd_append_return_iff after').mp hend⟩
    rw [List.append_assoc, List.cons_append]
  · rintro ⟨hne, hword, before, after, rfl, hend⟩
    refine ⟨hne, hword, before, after ++ ['\r'], ?_, (wordEnd_append_return_iff after).mpr hend⟩
    simp

theorem hasTag_append_return_iff (tag : DocTag) (variableName : Option String)
    (line : List Char) : HasTag tag variableName (line ++ ['\r']) ↔ HasTag tag variableName line := by
  constructor
  · rintro ⟨before, after, hline, hend, hnames⟩
    have hlast : (before ++ tag.text.toList).getLast? ≠ some '\r' := by
      cases tag <;> simp [DocTag.text, List.getLast?_append]
    obtain ⟨after', rfl, rfl⟩ := exists_of_append_eq_append_return hlast hline
    refine ⟨before, after', rfl, (wordEnd_append_return_iff after').mp hend, ?_⟩
    intro name hname
    exact (names_append_return_iff _ _).mp (hnames name hname)
  · rintro ⟨before, after, rfl, hend, hnames⟩
    refine ⟨before, after ++ ['\r'], by simp, (wordEnd_append_return_iff after).mpr hend, ?_⟩
    intro name hname
    exact (names_append_return_iff _ _).mpr (hnames name hname)

/-- The test of a line does not see a carriage return at its end. -/
theorem lineHasTag_of_sameUpToReturn (tag : DocTag) (variableName : Option String)
    {line line' : List Char} (h : Text.SameUpToReturn line line') :
    lineHasTag tag variableName line = lineHasTag tag variableName line' := by
  rcases h with rfl | rfl
  · rfl
  · rw [Bool.eq_iff_iff, lineHasTag_iff, lineHasTag_iff, hasTag_append_return_iff]

/-! ### The line of a tag -/

theorem findIdx?_of_forall₂ {α : Type} {R : α → α → Prop} {p : α → Bool}
    (hp : ∀ a b, R a b → p a = p b) {as bs : List α} (h : List.Forall₂ R as bs) :
    as.findIdx? p = bs.findIdx? p := by
  induction h with
  | nil => rfl
  | cons hab _ ih => rw [List.findIdx?_cons, List.findIdx?_cons, hp _ _ hab, ih]

/-- The comment with a carriage return before every line feed. -/
def withReturns (doc : DocComment) : DocComment :=
  { doc with text := String.ofList (Text.withReturns doc.text.toList) }

/-- **Line ends do not move tags.**  A comment and the same comment with a carriage return before
every line feed have each tag, and each variable's tag, on the same line, whatever carriage returns
the text holds already. -/
theorem tagLine_withReturns (doc : DocComment) (tag : DocTag) (variableName : Option String) :
    doc.withReturns.tagLine tag variableName = doc.tagLine tag variableName := by
  have hfind : (Text.lines (Text.withReturns doc.text.toList)).findIdx?
        (lineHasTag tag variableName) =
      (Text.lines doc.text.toList).findIdx? (lineHasTag tag variableName) :=
    (findIdx?_of_forall₂ (fun _ _ h => lineHasTag_of_sameUpToReturn tag variableName h)
      (Text.forall₂_lines_withReturns doc.text.toList)).symm
  unfold tagLine withReturns
  rw [String.toList_ofList, hfind]

/-- Of three carriage returns one goes with the line feed; the tag and the variable before the
others are found as before. -/
example :
    withReturns ⟨"/**\n * @var\r\r\n */", 10⟩ = ⟨"/**\r\n * @var\r\r\r\n */", 10⟩ ∧
      tagLine ⟨"/**\r\n * @var\r\r\r\n */", 10⟩ .var none = 11 := by
  decide +kernel

end TypeAudit.DocComment
