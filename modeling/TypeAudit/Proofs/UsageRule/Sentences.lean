import Mathlib.Data.List.TakeWhile
import TypeAudit.Proofs.UsageRule.Edits

/-! # Messages are sentences

A message is the sentence about a site, and behind it the explanation of the denial as a sentence of
its own.  `WellPunctuated` says what this means without saying how it is computed: a blank
explanation adds nothing; of any other the message takes what is left without the blanks at its two
ends (`Text.TrimsTo`), and closes it with a full stop unless it ends in a mark that ends a sentence.
The text that stands in the message explains the denial as well: as an explanation it gives the same
message again.

Every message of a check is well punctuated (`messages_well_punctuated`).  An explanation that names
an ancestor is never blank and ends in a bracket, so whatever was configured, trimming leaves the
note on the ancestor at the end (`TrimsTo.exists_append`) and the full stop is added. -/

namespace TypeAudit

/-! ### Trimming -/

namespace Text

/-- `core` is what is left of a text without the blanks at its two ends. -/
structure TrimsTo (text core : List Char) : Prop where
  split : ∃ left right, text = left ++ core ++ right ∧
    (∀ c ∈ left, isBlank c = true) ∧ ∀ c ∈ right, isBlank c = true
  head : ∀ c, core.head? = some c → isBlank c = false
  last : ∀ c, core.getLast? = some c → isBlank c = false

theorem isBlank_of_head?_dropWhile {cs : List Char} {c : Char}
    (h : (cs.dropWhile isBlank).head? = some c) : isBlank c = false := by
  have hnot := List.head?_dropWhile_not isBlank cs
  rw [h] at hnot
  exact hnot

theorem dropWhile_of_head? {cs : List Char}
    (h : ∀ c, cs.head? = some c → isBlank c = false) : cs.dropWhile isBlank = cs := by
  cases cs with
  | nil => rfl
  | cons c cs => exact List.dropWhile_cons_of_neg (by simp [h c rfl])

theorem trimsTo_trimChars (text : List Char) : TrimsTo text (trimChars text) := by
  have hfront := List.takeWhile_append_dropWhile (p := isBlank) (l := text)
  have hback : trimChars text ++ ((text.dropWhile isBlank).reverse.takeWhile isBlank).reverse =
      text.dropWhile isBlank := by
    rw [trimChars, ← List.reverse_append, List.takeWhile_append_dropWhile, List.reverse_reverse]
  refine ⟨⟨text.takeWhile isBlank, ((text.dropWhile isBlank).reverse.takeWhile isBlank).reverse,
    ?_, fun c hc => List.mem_takeWhile_imp hc, ?_⟩, ?_, ?_⟩
  · rw [List.append_assoc, hback, hfront]
  · intro c hc
    rw [List.mem_reverse] at hc
    exact List.mem_takeWhile_imp hc
  · intro c hc
    have hfirst : (text.dropWhile isBlank).head? = some c := by
      rw [← hback, List.head?_append, hc]
      rfl
    exact isBlank_of_head?_dropWhile hfirst
  · intro c hc
    rw [trimChars, List.getLast?_reverse] at hc
    exact isBlank_of_head?_dropWhile hc

namespace TrimsTo

variable {text core : List Char}

/-- There is one way to trim a text. -/
theorem trimChars_eq (h : TrimsTo text core) : trimChars text = core := by
  obtain ⟨⟨left, right, rfl, hleft, hright⟩, hhead, hlast⟩ := h
  have hfront : (left ++ core ++ right).dropWhile isBlank = (core ++ right).dropWhile isBlank := by
    rw [List.append_assoc, List.dropWhile_append_of_pos hleft]
  have hback : ∀ c ∈ right.reverse, isBlank c = true := by
    intro c hc
    exact hright c (List.mem_reverse.mp hc)
  unfold trimChars
  cases core with
  | nil =>
      have hblank : right.dropWhile isBlank = [] := List.dropWhile_eq_nil_iff.mpr hright
      rw [hfront, List.nil_append, hblank]
      rfl
  | cons c cs =>
      have hcore : ((c :: cs) ++ right).dropWhile isBlank = (c :: cs) ++ right :=
        dropWhile_of_head? (fun d hd => hhead d hd)
      have hreverse : (c :: cs).reverse.dropWhile isBlank = (c :: cs).reverse := by
        refine dropWhile_of_head? ?_
        intro d hd
        rw [List.head?_reverse] at hd
        exact hlast d hd
      rw [hfront, hcore, List.reverse_append, List.dropWhile_append_of_pos hback, hreverse,
        List.reverse_reverse]

/-- A text with a character that is not blank is not trimmed to nothing. -/
theorem ne_nil (h : TrimsTo text core) (htext : ∃ c ∈ text, isBlank c = false) : core ≠ [] := by
  rintro rfl
  obtain ⟨⟨left, right, rfl, hleft, hright⟩, _, _⟩ := h
  obtain ⟨c, hc, hfalse⟩ := htext
  rw [List.append_nil, List.mem_append] at hc
  have htrue : isBlank c = true := hc.elim (hleft c) (hright c)
  rw [hfalse] at htrue
  cases htrue

/-- Trimming keeps the end of a text if no blank stands at its two ends. -/
theorem exists_append {front note : List Char} (h : TrimsTo (front ++ note) core)
    (hne : note ≠ []) (hhead : ∀ c, note.head? = some c → isBlank c = false)
    (hlast : ∀ c, note.getLast? = some c → isBlank c = false) :
    ∃ front', core = front' ++ note := by
  obtain ⟨⟨left, right, hsplit, hleft, hright⟩, _, _⟩ := h
  obtain rfl : right = [] := by
    by_contra hcons
    have hend := congrArg List.getLast? hsplit
    rw [List.getLast?_append_of_ne_nil _ hne, List.getLast?_append_of_ne_nil _ hcons] at hend
    have hblank := hright _ (List.getLast_mem hcons)
    rw [hlast _ (hend.trans (List.getLast?_eq_some_getLast hcons))] at hblank
    cases hblank
  rw [List.append_nil] at hsplit
  rcases List.append_eq_append_iff.mp hsplit with ⟨front', rfl, hnote⟩ | ⟨front', hfront, rfl⟩
  · cases front' with
    | nil => exact ⟨[], hnote.symm⟩
    | cons c cs =>
        have hblank := hleft c (by simp)
        rw [hhead c (by rw [hnote]; rfl)] at hblank
        cases hblank
  · exact ⟨front', rfl⟩

end TrimsTo

end Text

namespace UsageRule

/-! ### Sentences -/

/-- The text ends in a mark that ends a sentence. -/
def EndsInMark (text : String) : Prop :=
  ∃ c, text.toList.getLast? = some c ∧ (c = '.' ∨ c = '!' ∨ c = '?')

/-- The text as a sentence of its own is `core`, with a full stop if it does not end in a mark. -/
def ClosedAs (core text : String) : Prop :=
  (EndsInMark core ∧ text = core) ∨ (¬ EndsInMark core ∧ text = core ++ ".")

/-- The message says `subject` and explains it by `description`, each as a sentence. -/
structure WellPunctuated (subject description message : String) : Prop where
  ends : EndsInMark message
  blank : (∀ c ∈ description.toList, Text.isBlank c = true) → message = subject ++ "."
  /-- Any other description stands behind the subject, trimmed and closed; as it stands there it
  gives the same message. -/
  explained : (∃ c ∈ description.toList, Text.isBlank c = false) →
    ∃ core text, Text.TrimsTo description.toList core.toList ∧ ClosedAs core text ∧
      message = subject ++ ". " ++ text ∧ sentences subject text = message

theorem endsSentence_iff (c : Char) : endsSentence c = true ↔ c = '.' ∨ c = '!' ∨ c = '?' := by
  simp [endsSentence, or_assoc]

theorem endsInMark_append {front text : String} (h : EndsInMark text) :
    EndsInMark (front ++ text) := by
  obtain ⟨c, hlast, hmark⟩ := h
  refine ⟨c, ?_, hmark⟩
  rw [String.toList_append, List.getLast?_append, hlast]
  rfl

theorem endsInMark_stop : EndsInMark "." := ⟨'.', rfl, Or.inl rfl⟩

theorem EndsInMark.ne_nil {text : String} (h : EndsInMark text) : text.toList ≠ [] := by
  obtain ⟨c, hlast, _⟩ := h
  intro hnil
  rw [hnil] at hlast
  cases hlast

theorem ClosedAs.endsInMark {core text : String} (h : ClosedAs core text) : EndsInMark text := by
  rcases h with ⟨hmark, rfl⟩ | ⟨_, rfl⟩
  · exact hmark
  · exact endsInMark_append endsInMark_stop

/-- Closing a sentence puts no blank at its end. -/
theorem ClosedAs.trimsTo {core text : String} (h : ClosedAs core text) (hne : core.toList ≠ [])
    (hhead : ∀ c, core.toList.head? = some c → Text.isBlank c = false) :
    Text.TrimsTo text.toList text.toList := by
  refine ⟨⟨[], [], by simp, by simp, by simp⟩, ?_, ?_⟩
  · intro c hc
    refine hhead c ?_
    rcases h with ⟨_, rfl⟩ | ⟨_, rfl⟩
    · exact hc
    · rwa [String.toList_append, List.head?_append_of_ne_nil _ hne] at hc
  · intro c hc
    obtain ⟨d, hlast, hmark⟩ := h.endsInMark
    obtain rfl : d = c := Option.some.inj (hlast.symm.trans hc)
    rcases hmark with rfl | rfl | rfl <;> rfl

section sentences
variable (subject : String) {description core : String}
  (h : Text.TrimsTo description.toList core.toList)
include h

theorem sentences_of_trimsTo_nil (hcore : core.toList = []) :
    sentences subject description = subject ++ "." := by
  unfold sentences
  rw [h.trimChars_eq, hcore]
  rfl

theorem sentences_of_closedAs {text : String} (hcore : core.toList ≠ [])
    (htext : ClosedAs core text) :
    sentences subject description = subject ++ ". " ++ text := by
  have hlast := List.getLast?_eq_some_getLast hcore
  have hmark : EndsInMark core ↔ endsSentence (core.toList.getLast hcore) = true := by
    rw [endsSentence_iff]
    constructor
    · rintro ⟨c, hc, hmark⟩
      rwa [← Option.some.inj (hc.symm.trans hlast)]
    · intro hmark
      exact ⟨_, hlast, hmark⟩
  unfold sentences
  dsimp only
  rw [h.trimChars_eq, hlast, String.ofList_toList]
  dsimp only
  rcases htext with ⟨hends, rfl⟩ | ⟨hends, rfl⟩
  · rw [if_pos (hmark.mp hends)]
  · rw [if_neg (fun hcontra => hends (hmark.mpr hcontra)), String.append_assoc]

end sentences

theorem exists_closedAs (core : String) : ∃ text, ClosedAs core text := by
  by_cases hmark : EndsInMark core
  · exact ⟨core, Or.inl ⟨hmark, rfl⟩⟩
  · exact ⟨core ++ ".", Or.inr ⟨hmark, rfl⟩⟩

theorem exists_trimsTo (description : String) :
    ∃ core : String, Text.TrimsTo description.toList core.toList := by
  refine ⟨Text.trim description, ?_⟩
  rw [Text.trim, String.toList_ofList]
  exact Text.trimsTo_trimChars description.toList

theorem wellPunctuated_sentences (subject description : String) :
    WellPunctuated subject description (sentences subject description) := by
  obtain ⟨core, htrims⟩ := exists_trimsTo description
  obtain ⟨text, htext⟩ := exists_closedAs core
  refine ⟨?_, ?_, ?_⟩
  · by_cases hnil : core.toList = []
    · rw [sentences_of_trimsTo_nil subject htrims hnil]
      exact endsInMark_append endsInMark_stop
    · rw [sentences_of_closedAs subject htrims hnil htext]
      exact endsInMark_append htext.endsInMark
  · intro hblank
    have hnothing : Text.TrimsTo description.toList [] :=
      ⟨⟨description.toList, [], by simp, hblank, by simp⟩, by simp, by simp⟩
    exact sentences_of_trimsTo_nil subject htrims
      (htrims.trimChars_eq.symm.trans hnothing.trimChars_eq)
  · intro hexplained
    have hne := htrims.ne_nil hexplained
    have hmessage := sentences_of_closedAs subject htrims hne htext
    have hagain := sentences_of_closedAs subject (htext.trimsTo hne htrims.head)
      htext.endsInMark.ne_nil (Or.inl ⟨htext.endsInMark, rfl⟩)
    exact ⟨core, text, htrims, htext, hmessage, hagain.trans hmessage.symm⟩

/-! ### Denied ancestors -/

/-- The note on a denied ancestor. -/
def ancestorNote (ancestor : String) : String := "(subclass of " ++ ancestor ++ ")"

theorem head?_ancestorNote (ancestor : String) :
    (ancestorNote ancestor).toList.head? = some '(' := by
  rw [ancestorNote, String.toList_append, String.toList_append]
  rfl

theorem getLast?_ancestorNote (ancestor : String) :
    (ancestorNote ancestor).toList.getLast? = some ')' := by
  rw [ancestorNote, String.toList_append, List.getLast?_append]
  rfl

/-- The explanation of a denial through an ancestor ends in the note on it. -/
theorem exists_description_inherited (entry : Entry) :
    ∃ front, (Match.inherited entry).description = front ++ ancestorNote entry.name := by
  unfold Match.description ancestorNote
  dsimp only
  split_ifs
  · exact ⟨"", String.empty_append.symm⟩
  · exact ⟨entry.description ++ " ", rfl⟩

/-- The note is what trimming leaves at the end. -/
theorem exists_trimsTo_inherited (entry : Entry) :
    ∃ (front : List Char) (core : String),
      Text.TrimsTo (Match.inherited entry).description.toList core.toList ∧
        core.toList = front ++ (ancestorNote entry.name).toList := by
  obtain ⟨front, hdescription⟩ := exists_description_inherited entry
  obtain ⟨core, htrims⟩ := exists_trimsTo (Match.inherited entry).description
  have hsplit := htrims
  rw [hdescription, String.toList_append] at hsplit
  obtain ⟨front', hcore⟩ := hsplit.exists_append
    (by intro hnil; simpa [hnil] using head?_ancestorNote entry.name)
    (by simp only [head?_ancestorNote, Option.some.injEq, forall_eq']; rfl)
    (by simp only [getLast?_ancestorNote, Option.some.injEq, forall_eq']; rfl)
  exact ⟨front', core, htrims, hcore⟩

/-- Behind every subject the explanation of such a denial ends in the note, as a sentence. -/
theorem suffix_sentences_inherited (subject : String) (entry : Entry) :
    ("(subclass of " ++ entry.name ++ ").").toList <:+
      (sentences subject (Match.inherited entry).description).toList := by
  obtain ⟨front, core, htrims, hcore⟩ := exists_trimsTo_inherited entry
  have hbracket : core.toList.getLast? = some ')' := by
    rw [hcore, List.getLast?_append, getLast?_ancestorNote]
    rfl
  have hclosed : ClosedAs core (core ++ ".") := by
    refine Or.inr ⟨?_, rfl⟩
    rintro ⟨c, hc, hmark⟩
    obtain rfl : ')' = c := Option.some.inj (hbracket.symm.trans hc)
    simp at hmark
  have hne : core.toList ≠ [] := by
    intro hnil
    rw [hnil] at hbracket
    cases hbracket
  rw [sentences_of_closedAs subject htrims hne hclosed]
  refine ⟨(subject ++ ". ").toList ++ front, ?_⟩
  simp [hcore, ancestorNote]

/-! ### The messages of a check -/

/-- **Messages are well punctuated.**  A check gives one report on each denied site, and its message
is the sentence about the site followed by the explanation of the denial as a sentence.  Where the
site is denied because of an ancestor, the message ends in the note on that ancestor, whatever
explanation was configured. -/
theorem messages_well_punctuated (types : Denylist) (ctx : Context) (node : Node) :
    List.Forall₂ (fun (s : Site) (x : Diagnostic) =>
        ∃ found, (types.find ctx.scope.hierarchy s.name s.usage).value = some found ∧
          WellPunctuated s.subject found.description x.message ∧
          ∀ ancestor, found.ancestor? = some ancestor →
            ("(subclass of " ++ ancestor ++ ").").toList <:+ x.message.toList)
      (deniedSites types ctx node) (check types ctx node).value := by
  refine (forall₂_reportOn_check types ctx node).imp ?_
  rintro s x ⟨found, hfind, rfl⟩
  refine ⟨found, hfind, wellPunctuated_sentences s.subject found.description, ?_⟩
  intro ancestor hancestor
  cases found with
  | exact entry => cases hancestor
  | inherited entry =>
      cases hancestor
      exact suffix_sentences_inherited s.subject entry

end UsageRule

end TypeAudit
