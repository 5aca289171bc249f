import TypeAudit.Proofs.Json.Literals

/-! # Printed values are read back

Every value whose numbers are well formed is read back from its text (`parse?_render`): strings of
any characters, numbers with decimal places and exponents, and arrays and objects nested to any
depth, with repeated keys and all.

Items between brackets are read one by one (`items_intercalate`), be they elements or members; all
that is needed of an item is that its text is read back in front of a comma or a bracket and is not
taken for a bracket itself (`ReadsBack`).  The values themselves follow by induction
(`legible_of_wellFormed`), with a depth above the length of the text. -/

namespace TypeAudit.Json

open Text (Reader expect sepBy)

/-! ### Blanks -/

theorem skipBlanks_cons {c : Char} (hc : isBlank c = false) (s : List Char) :
    skipBlanks (c :: s) = c :: s := by
  rw [skipBlanks, List.dropWhile_cons, if_neg (by simp [hc])]

theorem Closed.skipBlanks_eq {s : List Char} (hs : Closed s) : skipBlanks s = s := by
  cases s with
  | nil => rfl
  | cons c s =>
      apply skipBlanks_cons
      rcases hs c rfl with rfl | rfl | rfl <;> decide

/-! ### Items between brackets -/

section items
variable {α : Type}

/-- The text begins with neither a blank nor a closing bracket. -/
def Opens (text : List Char) : Prop :=
  ∃ c rest, text = c :: rest ∧ isBlank c = false ∧ c ≠ ']' ∧ c ≠ '}'

namespace Opens

theorem append {text : List Char} (h : Opens text) (s : List Char) : Opens (text ++ s) := by
  obtain ⟨c, rest, rfl, hc⟩ := h
  exact ⟨c, rest ++ s, rfl, hc⟩

theorem skipBlanks_eq {text : List Char} (h : Opens text) : skipBlanks text = text := by
  obtain ⟨c, rest, rfl, hblank, -, -⟩ := h
  exact skipBlanks_cons hblank rest

theorem expect_eq_none {text : List Char} (h : Opens text) {close : Char}
    (hclose : close = ']' ∨ close = '}') : expect close text = none := by
  obtain ⟨c, rest, rfl, -, hbracket, hbrace⟩ := h
  have hc : c ≠ close := by rcases hclose with rfl | rfl <;> assumption
  rw [expect, if_neg hc]

end Opens

/-- The reader reads an item back from its text. -/
structure ReadsBack (item : Reader α) (text : α → List Char) (a : α) : Prop where
  opens : Opens (text a)
  reads : ∀ s, Closed s → item (text a ++ s) = some (a, s)

theorem length_le_intercalate {texts : List (List Char)} :
    ∀ text ∈ texts, text.length ≤ ([','].intercalate texts).length := by
  induction texts with
  | nil => simp
  | cons first texts ih =>
      intro text htext
      cases texts with
      | nil => rw [List.mem_singleton.mp htext, List.intercalate_singleton]
      | cons second texts =>
          rw [List.intercalate_cons_cons, List.length_append, List.length_append]
          rcases List.mem_cons.mp htext with rfl | htext
          · omega
          · have := ih text htext
            omega

variable {item : Reader α} {text : α → List Char}

theorem sepBy_intercalate {as : List α} (hne : as ≠ []) (h : ∀ a ∈ as, ReadsBack item text a)
    {close : Char} (hclose : close = ']' ∨ close = '}') (s : List Char) :
    sepBy item ',' ([','].intercalate (as.map text) ++ close :: s) = some (as, close :: s) := by
  have hs : Closed (close :: s) := closed_cons (Or.inr hclose) s
  have hcomma : close ≠ ',' := by rcases hclose with rfl | rfl <;> decide
  induction as with
  | nil => exact absurd rfl hne
  | cons a as ih =>
      have ha := (h a List.mem_cons_self).reads
      cases as with
      | nil =>
          rw [List.map_singleton, List.intercalate_singleton, sepBy, ha _ hs]
          simp only [expect, if_neg hcomma]
      | cons b as =>
          have hrest := ih (List.cons_ne_nil b as) (fun x hx => h x (List.mem_cons_of_mem a hx))
          rw [List.map_cons, List.map_cons, List.intercalate_cons_cons, ← List.map_cons,
            List.append_assoc, List.append_assoc, List.singleton_append, sepBy,
            ha _ (closed_cons (Or.inl rfl) _)]
          simp only [expect, if_true]
          rw [if_pos (by simp only [List.length_append, List.length_cons]; omega), hrest]
          rfl

theorem opens_intercalate {first : List Char} (h : Opens first) (texts : List (List Char)) :
    Opens ([','].intercalate (first :: texts)) := by
  obtain ⟨c, rest, rfl, hc⟩ := h
  exact ⟨c, _, List.intercalate_cons_cons_left, hc⟩

/-- Items with commas between them are read back up to the closing bracket. -/
theorem items_intercalate {as : List α} (h : ∀ a ∈ as, ReadsBack item text a) {close : Char}
    (hclose : close = ']' ∨ close = '}') (s : List Char) :
    items item close ([','].intercalate (as.map text) ++ close :: s) = some (as, s) := by
  have hs : Closed (close :: s) := closed_cons (Or.inr hclose) s
  unfold items
  cases as with
  | nil =>
      rw [List.map_nil, List.intercalate_nil, List.nil_append, hs.skipBlanks_eq]
      simp [expect]
  | cons a as =>
      have hfirst := opens_intercalate (h a List.mem_cons_self).opens (as.map text)
      have hopens := hfirst.append (close :: s)
      rw [List.map_cons, hopens.skipBlanks_eq, hopens.expect_eq_none hclose, ← List.map_cons]
      simp only [sepBy_intercalate (List.cons_ne_nil a as) h hclose s, expect,
        Option.bind_eq_bind, Option.bind_some, if_true]
      rfl

end items

/-! ### The text of a value -/

def renderMember (m : Option String × Value) : List Char := renderString m.1 ++ ':' :: render m.2

theorem renderElements_eq (vs : List Value) :
    renderElements vs = [','].intercalate (vs.map render) := by
  induction vs with
  | nil => rw [renderElements, List.map_nil, List.intercalate_nil]
  | cons v vs ih =>
      cases vs with
      | nil => rw [renderElements, List.map_singleton, List.intercalate_singleton]
      | cons w vs =>
          rw [renderElements, ih]
          · simp only [List.map_cons, List.intercalate_cons_cons, List.append_assoc,
              List.singleton_append]
          · exact List.cons_ne_nil w vs

theorem renderMembers_eq (ms : List (Option String × Value)) :
    renderMembers ms = [','].intercalate (ms.map renderMember) := by
  induction ms with
  | nil => rw [renderMembers, List.map_nil, List.intercalate_nil]
  | cons m ms ih =>
      cases ms with
      | nil => rw [renderMembers, List.map_singleton, List.intercalate_singleton, renderMember]
      | cons m' ms =>
          rw [renderMembers, ih]
          · simp only [List.map_cons, List.intercalate_cons_cons, List.append_assoc,
              List.singleton_append, renderMember]
          · exact List.cons_ne_nil m' ms

theorem renderNumber_eq_cons (n : Number) :
    ∃ c rest, renderNumber n = c :: rest ∧ (c = '-' ∨ Text.isDigit 10 c = true) := by
  rw [renderNumber_eq]
  cases n.negative with
  | true => exact ⟨'-', _, rfl, Or.inl rfl⟩
  | false =>
      obtain ⟨c, ds, hcons, hc⟩ := Text.decimal_eq_cons n.whole
      rw [hcons]
      exact ⟨c, _, rfl, Or.inr hc⟩

theorem renderString_eq_cons (text : Option String) :
    ∃ rest, renderString text = '"' :: rest := by
  cases text with
  | none => exact ⟨_, rfl⟩
  | some text => exact ⟨_, rfl⟩

theorem opens_renderString (text : Option String) : Opens (renderString text) := by
  obtain ⟨rest, hcons⟩ := renderString_eq_cons text
  exact ⟨'"', rest, hcons, by decide⟩

theorem opens_render (v : Value) : Opens (render v) := by
  cases v with
  | null => exact ⟨_, _, by rw [render], by decide⟩
  | boolean b => cases b <;> exact ⟨_, _, by rw [render], by decide⟩
  | number n =>
      obtain ⟨c, rest, hcons, hc⟩ := renderNumber_eq_cons n
      refine ⟨c, rest, by rw [render, hcons], ?_⟩
      rcases hc with rfl | hc
      · decide
      · refine ⟨?_, Text.ne_of_isDigit hc (by decide), Text.ne_of_isDigit hc (by decide)⟩
        simp only [isBlank, Bool.or_eq_false_iff, decide_eq_false_iff_not]
        exact ⟨⟨⟨Text.ne_of_isDigit hc (by decide), Text.ne_of_isDigit hc (by decide)⟩,
          Text.ne_of_isDigit hc (by decide)⟩, Text.ne_of_isDigit hc (by decide)⟩
  | string text =>
      rw [render]
      exact opens_renderString text
  | array vs => exact ⟨_, _, by rw [render, List.cons_append], by decide⟩
  | object ms => exact ⟨_, _, by rw [render, List.cons_append], by decide⟩

/-! ### Values -/

mutual

/-- The decimal places of every number in a value are digits. -/
def Value.WellFormed : Value → Prop
  | .number n => ∀ c ∈ n.fraction, Text.isDigit 10 c = true
  | .array elements => ElementsWellFormed elements
  | .object members => MembersWellFormed members
  | _ => True

def ElementsWellFormed : List Value → Prop
  | [] => True
  | v :: vs => v.WellFormed ∧ ElementsWellFormed vs

def MembersWellFormed : List (Option String × Value) → Prop
  | [] => True
  | (_, v) :: ms => v.WellFormed ∧ MembersWellFormed ms

end

/-- The value is read back from its text at every depth above the length of the text. -/
def Legible (v : Value) : Prop :=
  ∀ depth, (render v).length < depth → ReadsBack (value depth) render v

theorem readsBack_element {v : Value} (hv : Legible v) {depth : Nat}
    (hdepth : (render v).length < depth) : ReadsBack (element (value depth)) render v := by
  refine ⟨opens_render v, ?_⟩
  intro s hs
  simp only [element, ((opens_render v).append s).skipBlanks_eq, (hv depth hdepth).reads s hs,
    Option.bind_eq_bind, Option.bind_some, hs.skipBlanks_eq]
  rfl

theorem readsBack_member {m : Option String × Value} (hm : Legible m.2) {depth : Nat}
    (hdepth : (render m.2).length < depth) : ReadsBack (member (value depth)) renderMember m := by
  refine ⟨(opens_renderString m.1).append _, ?_⟩
  intro s hs
  have hkey := ((opens_renderString m.1).append (':' :: (render m.2 ++ s))).skipBlanks_eq
  have hvalue := ((opens_render m.2).append s).skipBlanks_eq
  have hcolon : skipBlanks (':' :: (render m.2 ++ s)) = ':' :: (render m.2 ++ s) :=
    skipBlanks_cons (by decide) _
  simp only [member, renderMember, List.append_assoc, List.cons_append, hkey, string_renderString,
    hcolon, expect, if_true, hvalue, (hm depth hdepth).reads s hs, Option.bind_eq_bind,
    Option.bind_some, hs.skipBlanks_eq]
  rfl

theorem value_renderNumber {n : Number} (hn : ∀ c ∈ n.fraction, Text.isDigit 10 c = true)
    (depth : Nat) {s : List Char} (hs : Closed s) :
    value (depth + 1) (renderNumber n ++ s) = some (.number n, s) := by
  have hnumber := number_renderNumber hn hs
  obtain ⟨c, rest, hcons, hc⟩ := renderNumber_eq_cons n
  have hne : c ≠ '"' ∧ c ≠ '[' ∧ c ≠ '{' ∧ c ≠ 'n' ∧ c ≠ 't' ∧ c ≠ 'f' := by
    rcases hc with rfl | hc
    · decide
    · refine ⟨?_, ?_, ?_, ?_, ?_, ?_⟩ <;> exact Text.ne_of_isDigit hc (by decide)
  obtain ⟨hquote, hbracket, hbrace, hnull, htrue, hfalse⟩ := hne
  rw [hcons, List.cons_append] at hnumber ⊢
  rw [value, if_neg hquote, if_neg hbracket, if_neg hbrace, if_neg hnull, if_neg htrue,
    if_neg hfalse, hnumber]
  rfl

theorem value_renderString (text : Option String) (depth : Nat) (s : List Char) :
    value (depth + 1) (renderString text ++ s) = some (.string text, s) := by
  have hstring := string_renderString text s
  obtain ⟨rest, hcons⟩ := renderString_eq_cons text
  rw [hcons, List.cons_append] at hstring ⊢
  rw [value, if_pos rfl, hstring]
  rfl

mutual

/-- A well-formed value is read back from its text. -/
theorem legible_of_wellFormed (v : Value) (hv : v.WellFormed) : Legible v := by
  intro depth hdepth
  obtain ⟨d, rfl⟩ := Nat.exists_eq_add_one_of_ne_zero (Nat.ne_zero_of_lt hdepth)
  refine ⟨opens_render v, ?_⟩
  intro s hs
  cases v with
  | null => simp [render, value, Text.expectAll, expect]
  | boolean b => cases b <;> simp [render, value, Text.expectAll, expect]
  | number n =>
      rw [Value.WellFormed] at hv
      rw [render]
      exact value_renderNumber hv d hs
  | string text =>
      rw [render]
      exact value_renderString text d s
  | array vs =>
      rw [Value.WellFormed] at hv
      rw [render, renderElements_eq, List.cons_append, List.length_cons,
        List.length_append] at hdepth
      have hitems : ∀ v ∈ vs, ReadsBack (element (value d)) render v := by
        intro v hmem
        have hle := length_le_intercalate (render v) (List.mem_map_of_mem hmem)
        exact readsBack_element (legible_of_elements vs hv v hmem) (by omega)
      rw [render, renderElements_eq, List.cons_append, List.cons_append, List.append_assoc,
        List.singleton_append, value, if_neg (by decide), if_pos rfl,
        items_intercalate hitems (Or.inl rfl) s]
      rfl
  | object ms =>
      rw [Value.WellFormed] at hv
      rw [render, renderMembers_eq, List.cons_append, List.length_cons,
        List.length_append] at hdepth
      have hitems : ∀ m ∈ ms, ReadsBack (member (value d)) renderMember m := by
        intro m hmem
        have hle := length_le_intercalate (renderMember m) (List.mem_map_of_mem hmem)
        rw [renderMember, List.length_append, List.length_cons] at hle
        exact readsBack_member (legible_of_members ms hv m hmem) (by omega)
      rw [render, renderMembers_eq, List.cons_append, List.cons_append, List.append_assoc,
        List.singleton_append, value, if_neg (by decide), if_neg (by decide), if_pos rfl,
        items_intercalate hitems (Or.inr rfl) s]
      rfl

theorem legible_of_elements (vs : List Value) (hvs : ElementsWellFormed vs) :
    ∀ v ∈ vs, Legible v := by
  match vs with
  | [] => exact fun v hv => absurd hv List.not_mem_nil
  | w :: vs =>
      rw [ElementsWellFormed] at hvs
      intro v hv
      rcases List.mem_cons.mp hv with heq | hv
      · rw [heq]
        exact legible_of_wellFormed w hvs.1
      · exact legible_of_elements vs hvs.2 v hv

theorem legible_of_members (ms : List (Option String × Value)) (hms : MembersWellFormed ms) :
    ∀ m ∈ ms, Legible m.2 := by
  match ms with
  | [] => exact fun m hm => absurd hm List.not_mem_nil
  | (key, w) :: ms =>
      rw [MembersWellFormed] at hms
      intro m hm
      rcases List.mem_cons.mp hm with heq | hm
      · rw [heq]
        exact legible_of_wellFormed w hms.1
      · exact legible_of_members ms hms.2 m hm

end

/-- Reading the text of a well-formed value gives the value. -/
theorem parse?_render {v : Value} (hv : v.WellFormed) : parse? (render v) = some v := by
  have hlegible := legible_of_wellFormed v hv ((render v).length + 1) (Nat.lt_succ_self _)
  have hread := hlegible.reads [] closed_nil
  rw [List.append_nil] at hread
  rw [parse?, (opens_render v).skipBlanks_eq, hread]
  rfl

end TypeAudit.Json
