import Mathlib.Data.List.TakeWhile
import Mathlib.Order.Bounds.Basic
import TypeAudit.DocComment

/-! # What the line of a tag means

A line *has* a tag (`HasTag`) if the tag stands somewhere in it at the end of a word and, for a
tag of a variable, the variable is named somewhere after it (`Names`): a `$`, the name, and the end
of the word.  Neither says which occurrence is meant, while `tagLine` looks at one occurrence only
and reads on from there.  Nothing is lost by that:

* whatever follows some occurrence of a tag follows the first one (`suffix_afterTag?`), so a
  variable that is named after a later occurrence is named after the first;
* the scan for variables goes on behind each name it has read, and no name it skips begins inside
  a word, since `$` is no word character (`mem_namedVariables_iff`).

Hence the test of a line is its meaning (`lineHasTag_iff`), and `tagLine` gives the first line that
has the tag (`tagLine_least`).  The lines are the parts between the line feeds of the text
(`Text.lines_eq_linesBetween`). -/

namespace TypeAudit.Text

/-! ### Lines between line feeds -/

/-- The part without the carriage return at its end, if it has one. -/
def dropReturn (part : List Char) : List Char :=
  if part.getLast? = some '\r' then part.dropLast else part

/-- The lines of a text that was cut at its line feeds: every part but the last was ended by a
line feed, to which a carriage return before it belongs, and the last is a line unless it is
empty. -/
def linesOfParts (parts : List (List Char)) : List (List Char) :=
  parts.dropLast.map dropReturn ++ parts.getLast?.toList.filter (fun part => !part.isEmpty)

/-- The lines of a text by the parts between its line feeds. -/
def linesBetween (cs : List Char) : List (List Char) := linesOfParts (cs.splitOn '\n')

theorem linesOfParts_cons {parts : List (List Char)} (part : List Char) (hparts : parts ≠ []) :
    linesOfParts (part :: parts) = dropReturn part :: linesOfParts parts := by
  unfold linesOfParts
  rw [List.dropLast_cons_of_ne_nil hparts, List.getLast?_cons_of_ne_nil hparts]
  rfl

theorem splitOn_newline_cons (cs : List Char) :
    ('\n' :: cs).splitOn '\n' = [] :: cs.splitOn '\n' := by
  simp [List.splitOn, List.splitOnP_cons_eq_if_modifyHead]

theorem splitOn_cons_of_ne {c : Char} (hc : c ≠ '\n') (cs : List Char) :
    (c :: cs).splitOn '\n' = (cs.splitOn '\n').modifyHead (c :: ·) := by
  simp [List.splitOn, List.splitOnP_cons_eq_if_modifyHead, hc]

theorem dropReturn_cons_cons (c d : Char) (part : List Char) :
    dropReturn (c :: d :: part) = c :: dropReturn (d :: part) := by
  unfold dropReturn
  rw [List.getLast?_cons_cons, List.dropLast_cons_cons]
  split_ifs <;> rfl

/-- A character in front goes to the first line, unless it is a carriage return that belongs to
a line feed. -/
theorem linesBetween_cons {c : Char} {cs : List Char} (hc : c ≠ '\n')
    (hreturn : c = '\r' → ∀ rest, cs ≠ '\n' :: rest) :
    linesBetween (c :: cs) =
      match linesBetween cs with
      | [] => [[c]]
      | line :: lines => (c :: line) :: lines := by
  unfold linesBetween
  rw [splitOn_cons_of_ne hc]
  cases cs with
  | nil => rfl
  | cons d ds =>
      by_cases hd : d = '\n'
      · subst hd
        have hkept : dropReturn [c] = [c] := by
          have hne : c ≠ '\r' := fun h => hreturn h ds rfl
          simp [dropReturn, hne]
        rw [splitOn_newline_cons, List.modifyHead_cons,
          linesOfParts_cons _ (List.splitOn_ne_nil _ _),
          linesOfParts_cons _ (List.splitOn_ne_nil _ _), hkept]
        rfl
      · rw [splitOn_cons_of_ne hd]
        cases hparts : ds.splitOn '\n' with
        | nil => exact absurd hparts (List.splitOn_ne_nil _ _)
        | cons part parts =>
            rw [List.modifyHead_cons, List.modifyHead_cons]
            by_cases hlast : parts = []
            · subst hlast
              rfl
            · rw [linesOfParts_cons _ hlast, linesOfParts_cons _ hlast, dropReturn_cons_cons]

/-- Reading line ends from left to right is cutting the text at its line feeds. -/
theorem lines_eq_linesBetween (cs : List Char) : lines cs = linesBetween cs := by
  fun_induction lines cs with
  | case1 => rfl
  | case2 cs ih =>
      rw [ih]
      unfold linesBetween
      rw [splitOn_newline_cons, linesOfParts_cons _ (List.splitOn_ne_nil _ _)]
      rfl
  | case3 cs ih =>
      rw [ih]
      unfold linesBetween
      rw [splitOn_cons_of_ne (by decide), splitOn_newline_cons, List.modifyHead_cons,
        linesOfParts_cons _ (List.splitOn_ne_nil _ _)]
      rfl
  | case4 c cs hnewline hreturn hlines ih =>
      rw [linesBetween_cons hnewline (fun hc rest hrest => hreturn rest hc hrest), ← ih, hlines]
  | case5 c cs hnewline hreturn line lines hlines ih =>
      rw [linesBetween_cons hnewline (fun hc rest hrest => hreturn rest hc hrest), ← ih, hlines]

/-! ### Word characters -/

theorem isWord_of_isAlpha {c : Char} (h : c.isAlpha = true) : isWord c = true := by
  have hranges : wordRanges =
      (0x30, 0x39) :: (0x41, 0x5A) :: (0x5F, 0x5F) :: (0x61, 0x7A) :: wordRanges.drop 4 := rfl
  have hcase : (c.isUpper || c.isLower) = true := h
  unfold isWord
  rw [hranges]
  rcases Bool.or_eq_true_iff.mp hcase with hupper | hlower
  · obtain ⟨hlo, hhi⟩ : 0x41 ≤ c.toNat ∧ c.toNat ≤ 0x5A := of_decide_eq_true hupper
    rw [inRanges_cons_of_gt (by omega) (by omega), inRanges_cons_of_mem hlo hhi]
  · obtain ⟨hfirst, hlast⟩ := Bool.and_eq_true_iff.mp hlower
    have hlo : 0x61 ≤ c.toNat := of_decide_eq_true hfirst
    have hhi : c.toNat ≤ 0x7A := of_decide_eq_true hlast
    rw [inRanges_cons_of_gt (by omega) (by omega), inRanges_cons_of_gt (by omega) (by omega),
      inRanges_cons_of_gt (by omega) (by omega), inRanges_cons_of_mem hlo hhi]

theorem isWord_dollar : isWord '$' = false := rfl

end TypeAudit.Text

namespace TypeAudit.DocComment

/-! ### Tags and variables on a line -/

/-- A word that ends here goes no further: the line ends, or no word character follows. -/
def WordEnd (rest : List Char) : Prop :=
  rest = [] ∨ ∃ c cs, rest = c :: cs ∧ Text.isWord c = false

/-- The text names a variable: `$` and the whole name, which is a word. -/
structure Names (name text : List Char) : Prop where
  ne_nil : name ≠ []
  word : ∀ c ∈ name, Text.isWord c = true
  occurs : ∃ before after, text = before ++ '$' :: (name ++ after) ∧ WordEnd after

/-- The line has the tag at the end of a word and, if a variable is given, names it after the
tag. -/
def HasTag (tag : DocTag) (variableName : Option String) (line : List Char) : Prop :=
  ∃ before after, line = before ++ tag.text.toList ++ after ∧ WordEnd after ∧
    ∀ name, variableName = some name → Names name.toList after

theorem endsWord_iff (rest : List Char) : endsWord rest = true ↔ WordEnd rest := by
  cases rest <;> simp [endsWord, WordEnd]

/-! ### The first occurrence of a tag -/

theorem expectAll_eq_some_iff (tag text rest : List Char) :
    Text.expectAll tag text = some rest ↔ text = tag ++ rest := by
  induction tag generalizing text with
  | nil => simp [Text.expectAll, eq_comm]
  | cons c tag ih =>
      cases text with
      | nil => simp [Text.expectAll, Text.expect]
      | cons d text =>
          by_cases hd : d = c
          · simp [Text.expectAll, Text.expect, hd, ih]
          · simp [Text.expectAll, Text.expect, hd]

theorem afterTag?_eq_some {tag line rest : List Char} (h : afterTag? tag line = some rest) :
    WordEnd rest ∧ ∃ before, line = before ++ tag ++ rest := by
  fun_induction afterTag? tag line with
  | case1 => cases h
  | case2 c cs rest' hexpect hends =>
      cases h
      exact ⟨(endsWord_iff rest).mp hends, [], (expectAll_eq_some_iff _ _ _).mp hexpect⟩
  | case3 c cs rest' hexpect hends ih =>
      obtain ⟨hend, before, hline⟩ := ih h
      exact ⟨hend, c :: before, by rw [hline]; rfl⟩
  | case4 c cs hexpect ih =>
      obtain ⟨hend, before, hline⟩ := ih h
      exact ⟨hend, c :: before, by rw [hline]; rfl⟩

/-- What follows some occurrence of a tag is the end of what follows the first one. -/
theorem suffix_afterTag? {tag line before after : List Char} (htag : tag ≠ [])
    (hline : line = before ++ tag ++ after) (hend : WordEnd after) :
    ∃ rest, afterTag? tag line = some rest ∧ after <:+ rest := by
  fun_induction afterTag? tag line generalizing before with
  | case1 => simp [htag] at hline
  | case2 c cs rest hexpect hends =>
      have hfirst := (expectAll_eq_some_iff _ _ _).mp hexpect
      refine ⟨rest, rfl, List.suffix_of_suffix_length_le ⟨before ++ tag, hline.symm⟩
        ⟨tag, hfirst.symm⟩ ?_⟩
      have hlength := congrArg List.length (hline.symm.trans hfirst)
      simp only [List.length_append] at hlength
      omega
  | case3 c cs rest hexpect hends ih =>
      cases before with
      | nil =>
          have hfirst := (expectAll_eq_some_iff _ _ _).mp hexpect
          rw [hline, List.nil_append, List.append_cancel_left_eq] at hfirst
          rw [endsWord_iff, ← hfirst] at hends
          exact absurd hend hends
      | cons d before =>
          cases hline
          exact ih rfl
  | case4 c cs hexpect ih =>
      cases before with
      | nil =>
          rw [hline, List.nil_append, (expectAll_eq_some_iff _ _ _).mpr rfl] at hexpect
          cases hexpect
      | cons d before =>
          cases hline
          exact ih rfl

/-! ### The variables of a line -/

theorem Names.mono {name text text' : List Char} (h : Names name text) (hsuffix : text <:+ text') :
    Names name text' := by
  obtain ⟨front, rfl⟩ := hsuffix
  obtain ⟨hne, hword, before, after, rfl, hend⟩ := h
  exact ⟨hne, hword, front ++ before, after, by simp, hend⟩

/-- A word that ends in front of a text is the longest run of word characters there. -/
theorem isWord_append_wordEnd_iff (name text : List Char) :
    ((∀ c ∈ name, Text.isWord c = true) ∧ ∃ after, text = name ++ after ∧ WordEnd after) ↔
      name = text.takeWhile Text.isWord := by
  constructor
  · rintro ⟨hword, after, rfl, rfl | ⟨c, after, rfl, hc⟩⟩
    · rw [List.takeWhile_append_of_pos hword, List.takeWhile_nil, List.append_nil]
    · rw [List.takeWhile_append_of_pos hword, List.takeWhile_cons, hc]
      simp
  · rintro rfl
    refine ⟨fun c hc => List.mem_takeWhile_imp hc, text.dropWhile Text.isWord,
      List.takeWhile_append_dropWhile.symm, ?_⟩
    cases hdrop : text.dropWhile Text.isWord with
    | nil => exact Or.inl rfl
    | cons c cs =>
        have hc := List.head_dropWhile_not Text.isWord (l := text) (by simp [hdrop])
        simp only [hdrop, List.head_cons] at hc
        exact Or.inr ⟨c, cs, rfl, hc⟩

/-- A variable is named at the front of a text or further on. -/
theorem names_cons_iff (name : List Char) (c : Char) (cs : List Char) :
    Names name (c :: cs) ↔
      (c = '$' ∧ name ≠ [] ∧ name = cs.takeWhile Text.isWord) ∨ Names name cs := by
  constructor
  · rintro ⟨hne, hword, before, after, htext, hend⟩
    cases before with
    | nil =>
        cases htext
        exact Or.inl ⟨rfl, hne, (isWord_append_wordEnd_iff _ _).mp ⟨hword, after, rfl, hend⟩⟩
    | cons d before =>
        cases htext
        exact Or.inr ⟨hne, hword, before, after, rfl, hend⟩
  · rintro (⟨rfl, hne, hname⟩ | h)
    · obtain ⟨hword, after, hcs, hend⟩ := (isWord_append_wordEnd_iff _ _).mpr hname
      exact ⟨hne, hword, [], after, by rw [hcs]; rfl, hend⟩
    · exact h.mono (List.suffix_cons c cs)

/-- No variable is named inside a word. -/
theorem names_dropWhile_iff (name text : List Char) :
    Names name (text.dropWhile Text.isWord) ↔ Names name text := by
  constructor
  · intro h
    exact h.mono (List.dropWhile_suffix _)
  · rintro ⟨hne, hword, before, after, rfl, hend⟩
    have hdollar : ('$' :: (name ++ after)).dropWhile Text.isWord = '$' :: (name ++ after) :=
      List.dropWhile_cons_of_neg (by simp [Text.isWord_dollar])
    rw [List.dropWhile_append, hdollar]
    split_ifs
    · exact ⟨hne, hword, [], after, rfl, hend⟩
    · exact ⟨hne, hword, before.dropWhile Text.isWord, after, rfl, hend⟩

theorem mem_namedVariables_iff (name line : List Char) :
    name ∈ namedVariables line ↔ Names name line := by
  fun_induction namedVariables line with
  | case1 =>
      refine ⟨fun h => absurd h List.not_mem_nil, ?_⟩
      rintro ⟨_, _, before, after, htext, _⟩
      simp at htext
  | case2 cs hword ih =>
      rw [ih, names_cons_iff, hword]
      simp
  | case3 cs hword ih =>
      rw [List.mem_cons, ih, names_dropWhile_iff, names_cons_iff]
      refine or_congr_left ⟨fun h => ⟨rfl, ?_, h⟩, fun h => h.2.2⟩
      rw [h]
      exact hword
  | case4 c cs hc ih =>
      rw [ih, names_cons_iff]
      simp [hc]

/-! ### The test of a line -/

theorem lineHasTag_iff (tag : DocTag) (variableName : Option String) (line : List Char) :
    lineHasTag tag variableName line = true ↔ HasTag tag variableName line := by
  have htag : tag.text.toList ≠ [] := by cases tag <;> decide
  unfold lineHasTag
  constructor
  · intro h
    cases hafter : afterTag? tag.text.toList line with
    | none => simp [hafter] at h
    | some rest =>
        obtain ⟨hend, before, hline⟩ := afterTag?_eq_some hafter
        refine ⟨before, rest, hline, hend, ?_⟩
        rintro name rfl
        rw [hafter] at h
        rw [← mem_namedVariables_iff]
        exact List.contains_iff_mem.mp h
  · rintro ⟨before, after, hline, hend, hnames⟩
    obtain ⟨rest, hafter, hsuffix⟩ := suffix_afterTag? htag hline hend
    rw [hafter]
    cases variableName with
    | none => rfl
    | some name =>
        have hname : Names name.toList rest := (hnames name rfl).mono hsuffix
        rw [← mem_namedVariables_iff] at hname
        exact List.contains_iff_mem.mpr hname

/-! ### The line of a tag -/

/-- The positions, counted from zero, of the lines that have the tag. -/
def tagPositions (doc : DocComment) (tag : DocTag) (variableName : Option String) : Set Nat :=
  {i | ∃ line, (Text.linesBetween doc.text.toList)[i]? = some line ∧ HasTag tag variableName line}

theorem isLeast_tagPositions {doc : DocComment} {tag : DocTag} {variableName : Option String}
    {i : Nat} (h : (Text.lines doc.text.toList).findIdx? (lineHasTag tag variableName) = some i) :
    IsLeast (doc.tagPositions tag variableName) i := by
  rw [Text.lines_eq_linesBetween, List.findIdx?_eq_some_iff_getElem] at h
  obtain ⟨hi, htag, hbefore⟩ := h
  constructor
  · exact ⟨_, List.getElem?_eq_getElem hi, (lineHasTag_iff _ _ _).mp htag⟩
  · rintro j ⟨line, hline, hj⟩
    by_contra hlt
    rw [Nat.not_le] at hlt
    have hget := List.getElem?_eq_getElem (hlt.trans hi)
    rw [hget, Option.some.injEq] at hline
    exact hbefore j hlt (by rw [hline]; exact (lineHasTag_iff _ _ _).mpr hj)

theorem tagPositions_eq_empty {doc : DocComment} {tag : DocTag} {variableName : Option String}
    (h : (Text.lines doc.text.toList).findIdx? (lineHasTag tag variableName) = none) :
    doc.tagPositions tag variableName = ∅ := by
  rw [Text.lines_eq_linesBetween, List.findIdx?_eq_none_iff] at h
  rw [Set.eq_empty_iff_forall_notMem]
  rintro i ⟨line, hline, htag⟩
  have hfalse := h line (List.mem_of_getElem? hline)
  rw [(lineHasTag_iff _ _ _).mpr htag] at hfalse
  cases hfalse

/-- A name that is no word is named nowhere. -/
theorem not_hasTag_of_not_word {tag : DocTag} {name : String} {line : List Char}
    (h : name = "" ∨ ∃ c ∈ name.toList, Text.isWord c = false) :
    ¬ HasTag tag (some name) line := by
  rintro ⟨before, after, _, _, hnames⟩
  obtain ⟨hne, hword, _⟩ := hnames name rfl
  rcases h with rfl | ⟨c, hc, hfalse⟩
  · exact hne rfl
  · rw [hword c hc] at hfalse
    cases hfalse

theorem tagLine_cases (doc : DocComment) (tag : DocTag) (variableName : Option String) :
    (∃ i, IsLeast (doc.tagPositions tag variableName) i ∧
      doc.tagLine tag variableName = doc.startLine + i) ∨
    (doc.tagPositions tag variableName = ∅ ∧ doc.tagLine tag variableName = doc.startLine) := by
  unfold tagLine
  cases hfind : (Text.lines doc.text.toList).findIdx? (lineHasTag tag variableName) with
  | some i => exact Or.inl ⟨i, isLeast_tagPositions hfind, rfl⟩
  | none => exact Or.inr ⟨tagPositions_eq_empty hfind, rfl⟩

/-- **The line of a tag** is the first line that has it, or the first line of the comment if none
does; a variable whose name is no word is found on no line.  ASCII letters are word characters, and
the marks of tags, variables and line ends are not. -/
theorem tagLine_least (doc : DocComment) (tag : DocTag) (variableName : Option String) :
    ((∃ i, IsLeast (doc.tagPositions tag variableName) i ∧
        doc.tagLine tag variableName = doc.startLine + i) ∨
      (doc.tagPositions tag variableName = ∅ ∧
        doc.tagLine tag variableName = doc.startLine)) ∧
    (∀ name, variableName = some name →
      (name = "" ∨ ∃ c ∈ name.toList, Text.isWord c = false) →
      doc.tagLine tag variableName = doc.startLine) ∧
    (∀ c : Char, c.isAlpha = true → Text.isWord c = true) ∧
    Text.isWord '$' = false ∧ Text.isWord '@' = false ∧ Text.isWord '\r' = false ∧
      Text.isWord '\n' = false := by
  refine ⟨doc.tagLine_cases tag variableName, ?_, fun c => Text.isWord_of_isAlpha,
    Text.isWord_dollar, rfl, rfl, rfl⟩
  rintro name rfl hname
  rcases doc.tagLine_cases tag (some name) with ⟨i, hleast, _⟩ | ⟨_, hline⟩
  · obtain ⟨line, _, htag⟩ := hleast.1
    exact absurd htag (not_hasTag_of_not_word hname)
  · exact hline

/-- Two words are no name of a variable, even where the comment has both after a `$`. -/
theorem tagLine_least_two_words :
    Text.isWord ' ' = false ∧
      tagLine ⟨"/**\n * @param Foo $a b\n */", 10⟩ .param (some "a b") = 10 :=
  ⟨rfl, (tagLine_least _ .param (some "a b")).2.1 "a b" rfl (Or.inr ⟨' ', by decide, rfl⟩)⟩

/-- A name must end where the variable does, and the `$` before it may follow another. -/
example :
    tagLine ⟨"/**\r\n * @param Foo $xy\n * @param Foo $$x\n */", 10⟩ .param (some "x") = 12 := by
  decide +kernel

end TypeAudit.DocComment
