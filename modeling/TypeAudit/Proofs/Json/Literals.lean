import Mathlib.Tactic.IntervalCases
import TypeAudit.Json.Parser
import TypeAudit.Json.Printer

/-! # Printed literals are read back

A number or a string that was printed in front of some text is read back, and the text is left
(`number_renderNumber`, `string_renderString`).

* The digits of a number end where the text goes on with something else, so what follows a number
  must not extend it: it is nothing, or a comma or a closing bracket (`Closed`).
* A string ends at its closing quote whatever follows, because every quote and every backslash
  inside is escaped.  One character of a string is read at a time (`stringRest_escapeChar`), and a
  literal that denotes no text stays one. -/

namespace TypeAudit

/-! ### Digits -/

namespace Text

theorem digit?_digitChar {base d : Nat} (hd : d < base) (hbase : base ≤ 16) :
    digit? base (Nat.digitChar d) = some d := by
  have h16 : d < 16 := by omega
  interval_cases d <;> simp [digit?, Nat.digitChar, hd]

theorem isDigit_digitChar {base d : Nat} (hd : d < base) (hbase : base ≤ 16) :
    isDigit base (Nat.digitChar d) = true := by
  rw [isDigit, digit?_digitChar hd hbase]
  rfl

theorem ofDigits_append_digitChar {base d : Nat} (ds : List Char) (hd : d < base)
    (hbase : base ≤ 16) :
    ofDigits base (ds ++ [Nat.digitChar d]) = ofDigits base ds * base + d := by
  rw [ofDigits, List.foldl_append]
  simp only [List.foldl_cons, List.foldl_nil, digit?_digitChar hd hbase, Option.getD_some]
  rfl

theorem decimal_ne_nil (n : Nat) : decimal n ≠ [] := Nat.toDigits_ne_nil

/-- The digits of a number are one digit, or those of a smaller positive number and one more. -/
theorem decimal_induction {P : Nat → List Char → Prop}
    (single : ∀ d < 10, P d [Nat.digitChar d])
    (snoc : ∀ n d, 0 < n → d < 10 → P n (decimal n) →
      P (n * 10 + d) (decimal n ++ [Nat.digitChar d])) (n : Nat) : P n (decimal n) := by
  induction n using Nat.strongRecOn with
  | ind n ih =>
      rcases Nat.lt_or_ge n 10 with hlt | hge
      · rw [decimal, Nat.toDigits_of_lt_base hlt]
        exact single n hlt
      · have h := snoc (n / 10) (n % 10) (by omega) (by omega) (ih (n / 10) (by omega))
        rw [decimal, Nat.toDigits_of_base_le (by omega) hge]
        rwa [Nat.div_add_mod' n 10] at h

theorem isDigit_of_mem_decimal (n : Nat) : ∀ c ∈ decimal n, isDigit 10 c = true := by
  induction n using decimal_induction with
  | single d hd =>
      intro c hc
      rw [List.mem_singleton.mp hc]
      exact isDigit_digitChar hd (by omega)
  | snoc n d _ hd ih =>
      intro c hc
      rcases List.mem_append.mp hc with hc | hc
      · exact ih c hc
      · rw [List.mem_singleton.mp hc]
        exact isDigit_digitChar hd (by omega)

theorem decimal_eq_cons (n : Nat) : ∃ c ds, decimal n = c :: ds ∧ isDigit 10 c = true := by
  obtain ⟨c, ds, h⟩ := List.exists_cons_of_ne_nil (decimal_ne_nil n)
  exact ⟨c, ds, h, isDigit_of_mem_decimal n c (h ▸ List.mem_cons_self)⟩

theorem ne_of_isDigit {c d : Char} (hc : isDigit 10 c = true) (hd : isDigit 10 d = false) :
    c ≠ d := by
  rintro rfl
  rw [hc] at hd
  exact absurd hd (by decide)

/-- The digits of a number do not begin with a sign. -/
theorem sign_decimal (n : Nat) (s : List Char) :
    sign (decimal n ++ s) = (false, decimal n ++ s) := by
  obtain ⟨c, ds, hcons, hc⟩ := decimal_eq_cons n
  rw [hcons, List.cons_append]
  unfold sign
  split
  case h_1 heq => exact absurd (List.cons.inj heq).1 (ne_of_isDigit hc (by decide))
  case h_2 heq => exact absurd (List.cons.inj heq).1 (ne_of_isDigit hc (by decide))
  case h_3 => rfl

theorem ofDigits_decimal (n : Nat) : ofDigits 10 (decimal n) = n := by
  induction n using decimal_induction with
  | single d hd => simpa [ofDigits] using ofDigits_append_digitChar [] hd (by omega)
  | snoc n d _ hd ih => rw [ofDigits_append_digitChar _ hd (by omega), ih]

/-- Only zero is written with a leading zero. -/
theorem eq_zero_of_decimal (n : Nat) : ∀ ds, decimal n = '0' :: ds → n = 0 := by
  induction n using decimal_induction with
  | single d hd =>
      intro ds h
      exact Nat.digitChar_eq_zero.mp (List.cons.inj h).1
  | snoc n d hn _ ih =>
      intro ds h
      rcases List.append_eq_cons_iff.mp h with hnil | ⟨front, hfront, -⟩
      · exact absurd hnil.1 (decimal_ne_nil n)
      · have := ih front hfront
        omega

end Text

namespace Json

/-! ### Where a literal ends -/

/-- Nothing follows, or a comma or a closing bracket. -/
def Closed (s : List Char) : Prop := ∀ c ∈ s.head?, c = ',' ∨ c = ']' ∨ c = '}'

def NoDigit (s : List Char) : Prop := ∀ c ∈ s.head?, Text.isDigit 10 c = false

theorem closed_nil : Closed [] := by
  intro c hc
  exact absurd hc (by simp)

theorem closed_cons {c : Char} (hc : c = ',' ∨ c = ']' ∨ c = '}') (s : List Char) :
    Closed (c :: s) := by
  intro d hd
  rw [List.head?_cons, Option.mem_some_iff] at hd
  rwa [← hd]

theorem noDigit_cons {c : Char} (hc : Text.isDigit 10 c = false) (s : List Char) :
    NoDigit (c :: s) := by
  intro d hd
  rw [List.head?_cons, Option.mem_some_iff] at hd
  rwa [← hd]

theorem Closed.noDigit {s : List Char} (h : Closed s) : NoDigit s := by
  intro c hc
  rcases h c hc with rfl | rfl | rfl <;> decide

theorem digits_append {ds s : List Char} (hds : ∀ c ∈ ds, Text.isDigit 10 c = true)
    (hs : NoDigit s) : digits (ds ++ s) = (ds, s) := by
  have hnone : s.takeWhile (Text.isDigit 10) = [] ∧ s.dropWhile (Text.isDigit 10) = s := by
    cases s with
    | nil => exact ⟨rfl, rfl⟩
    | cons c s =>
        have hc : Text.isDigit 10 c = false := hs c rfl
        simp [hc]
  rw [digits, List.takeWhile_append_of_pos hds, List.dropWhile_append_of_pos hds, hnone.1, hnone.2,
    List.append_nil]

/-! ### Numbers -/

theorem whole_decimal (n : Nat) {s : List Char} (hs : NoDigit s) :
    whole (Text.decimal n ++ s) = some (n, s) := by
  unfold whole
  split
  case h_1 rest heq =>
    rcases List.append_eq_cons_iff.mp heq with hnil | ⟨front, hfront, hrest⟩
    · exact absurd hnil.1 (Text.decimal_ne_nil n)
    · have hn := Text.eq_zero_of_decimal n front hfront
      subst hn
      have hfront : front = [] := (List.cons.inj hfront).2.symm
      rw [hrest, hfront, List.nil_append]
  case h_2 =>
    rw [digits_append (Text.isDigit_of_mem_decimal n) hs]
    simp [Text.decimal_ne_nil, Text.ofDigits_decimal]

theorem fraction_append {ds s : List Char} (hds : ∀ c ∈ ds, Text.isDigit 10 c = true)
    (hs : NoDigit s) (hpoint : s.head? ≠ some '.') :
    fraction ((if ds.isEmpty then [] else '.' :: ds) ++ s) = (ds, s) := by
  cases ds with
  | nil =>
      rw [List.isEmpty_nil, if_pos rfl, List.nil_append]
      unfold fraction
      split
      case h_1 => exact absurd rfl hpoint
      case h_2 => rfl
  | cons c ds =>
      rw [List.isEmpty_cons, if_neg (by decide), List.cons_append]
      simp only [fraction, digits_append hds hs]
      rfl

def exponentText : Option Int → List Char
  | none => []
  | some (.ofNat e) => 'e' :: Text.decimal e
  | some (.negSucc e) => 'e' :: '-' :: Text.decimal (e + 1)

theorem exponent_exponentText (e : Option Int) {s : List Char} (hs : Closed s) :
    exponent (exponentText e ++ s) = (e, s) := by
  match e with
  | none =>
      unfold exponent exponentText
      rw [List.nil_append]
      cases s with
      | nil => rfl
      | cons c s =>
          have hc : ¬(c = 'e' ∨ c = 'E') := by
            rcases hs c rfl with rfl | rfl | rfl <;> decide
          simp only [if_neg hc]
  | some (.ofNat n) =>
      simp only [exponent, exponentText, List.cons_append, true_or, if_true, Text.sign_decimal,
        digits_append (Text.isDigit_of_mem_decimal n) hs.noDigit]
      simp [Text.decimal_ne_nil, Text.ofDigits_decimal, Text.signed]
  | some (.negSucc n) =>
      simp only [exponent, exponentText, List.cons_append, true_or, if_true, Text.sign,
        digits_append (Text.isDigit_of_mem_decimal (n + 1)) hs.noDigit]
      simp [Text.decimal_ne_nil, Text.ofDigits_decimal, Text.signed, Int.negSucc_eq]

theorem renderNumber_eq (n : Number) :
    renderNumber n = (if n.negative then ['-'] else []) ++ (Text.decimal n.whole
      ++ ((if n.fraction.isEmpty then [] else '.' :: n.fraction) ++ exponentText n.exponent)) := by
  unfold renderNumber
  rw [List.append_assoc, List.append_assoc]
  rfl

/-- What follows the decimal places, an exponent or the end, does not extend them. -/
theorem exponentText_append_ends (e : Option Int) {s : List Char} (hs : Closed s) :
    NoDigit (exponentText e ++ s) ∧ (exponentText e ++ s).head? ≠ some '.' := by
  match e with
  | none =>
      refine ⟨hs.noDigit, fun hpoint => ?_⟩
      exact absurd (hs '.' hpoint) (by decide)
  | some (.ofNat n) => exact ⟨noDigit_cons (by decide) _, by simp [exponentText]⟩
  | some (.negSucc n) => exact ⟨noDigit_cons (by decide) _, by simp [exponentText]⟩

theorem minus_decimal (negative : Bool) (n : Nat) (s : List Char) :
    minus ((if negative then ['-'] else []) ++ (Text.decimal n ++ s)) =
      (negative, Text.decimal n ++ s) := by
  cases negative with
  | true => rfl
  | false =>
      obtain ⟨c, ds, hcons, hc⟩ := Text.decimal_eq_cons n
      rw [if_neg (by decide), List.nil_append, hcons, List.cons_append]
      unfold minus
      split
      case h_1 heq => exact absurd (List.cons.inj heq).1 (Text.ne_of_isDigit hc (by decide))
      case h_2 => rfl

theorem number_renderNumber {n : Number} (hn : ∀ c ∈ n.fraction, Text.isDigit 10 c = true)
    {s : List Char} (hs : Closed s) : number (renderNumber n ++ s) = some (n, s) := by
  obtain ⟨hexp, hpoint⟩ := exponentText_append_ends n.exponent hs
  have hfraction := fraction_append hn hexp hpoint
  have hwhole : NoDigit ((if n.fraction.isEmpty then [] else '.' :: n.fraction)
      ++ (exponentText n.exponent ++ s)) := by
    cases n.fraction with
    | nil => exact hexp
    | cons c ds => exact noDigit_cons (by decide) _
  rw [renderNumber_eq]
  simp only [List.append_assoc, number, minus_decimal, whole_decimal n.whole hwhole, hfraction,
    exponent_exponentText n.exponent hs, Option.bind_eq_bind, Option.bind_some]
  rfl

/-! ### Strings -/

theorem fixedDigits_four {a b c d : Char} (s : List Char)
    (h : [a, b, c, d].all (Text.isDigit 16) = true) :
    Text.fixedDigits 16 4 (a :: b :: c :: d :: s) = some (Text.ofDigits 16 [a, b, c, d], s) := by
  unfold Text.fixedDigits
  simp only [List.take_succ_cons, List.take_zero, List.drop_succ_cons, List.drop_zero]
  rw [if_pos ⟨rfl, h⟩]

/-- A control below the space is read from its two hexadecimal digits. -/
theorem unicodeEscape_control {c : Char} (hc : c.toNat < 0x20) (s : List Char) :
    unicodeEscape ('0' :: '0' :: hexDigit (c.toNat / 16) :: hexDigit (c.toNat % 16) :: s) =
      some (some c, s) := by
  have hhigh : c.toNat / 16 < 16 := by omega
  have hlow : c.toNat % 16 < 16 := by omega
  have hdigits : ['0', '0', hexDigit (c.toNat / 16), hexDigit (c.toNat % 16)].all
      (Text.isDigit 16) = true := by
    have hzero : Text.isDigit 16 '0' = true := by decide
    simp only [hexDigit, List.all_cons, List.all_nil, hzero,
      Text.isDigit_digitChar hhigh (le_refl 16), Text.isDigit_digitChar hlow (le_refl 16),
      Bool.and_true]
  have hvalue : Text.ofDigits 16 ['0', '0', hexDigit (c.toNat / 16), hexDigit (c.toNat % 16)] =
      c.toNat := by
    have hfront := Text.ofDigits_append_digitChar ['0', '0'] hhigh (le_refl 16)
    have hzero : Text.ofDigits 16 ['0', '0'] = 0 := by decide
    have h := Text.ofDigits_append_digitChar ['0', '0', hexDigit (c.toNat / 16)] hlow (le_refl 16)
    rw [List.cons_append, List.cons_append, List.nil_append, hzero] at hfront
    rw [hexDigit, hfront] at h
    simp only [List.cons_append, List.nil_append] at h
    unfold hexDigit
    omega
  have hnothigh : isHighSurrogate c.toNat = false := by
    simp only [isHighSurrogate, Bool.and_eq_false_iff, decide_eq_false_iff_not]
    omega
  have hnotlow : isLowSurrogate c.toNat = false := by
    simp only [isLowSurrogate, Bool.and_eq_false_iff, decide_eq_false_iff_not]
    omega
  rw [unicodeEscape, fixedDigits_four s hdigits, hvalue]
  simp only [Option.bind_eq_bind, Option.bind_some, hnothigh, hnotlow, Char.ofNat_toNat]
  rfl

/-- A character is printed as an escape that reads back as it, or as itself; quotes, backslashes
and controls never are. -/
theorem escapeChar_cases (c : Char) :
    (∃ d t, escapeChar c = '\\' :: d :: t ∧ ∀ s, escape (d :: t ++ s) = some (some c, s)) ∨
      (escapeChar c = [c] ∧ c ≠ '"' ∧ c ≠ '\\' ∧ ¬ c.toNat < 0x20) := by
  unfold escapeChar
  split_ifs with hmark hback hform hline hreturn htab hcontrol
  · rcases hmark with rfl | rfl
    · exact Or.inl ⟨_, _, rfl, fun s => rfl⟩
    · exact Or.inl ⟨_, _, rfl, fun s => rfl⟩
  · exact Or.inl ⟨_, _, rfl, fun s => by rw [hback]; rfl⟩
  · exact Or.inl ⟨_, _, rfl, fun s => by rw [hform]; rfl⟩
  · exact Or.inl ⟨_, _, rfl, fun s => by rw [hline]; rfl⟩
  · exact Or.inl ⟨_, _, rfl, fun s => by rw [hreturn]; rfl⟩
  · exact Or.inl ⟨_, _, rfl, fun s => by rw [htab]; rfl⟩
  · exact Or.inl ⟨_, _, rfl, fun s => unicodeEscape_control hcontrol s⟩
  · rw [not_or] at hmark
    exact Or.inr ⟨rfl, hmark.1, hmark.2, hcontrol⟩

theorem stringRest_escapeChar (c : Char) (s : List Char) :
    stringRest (escapeChar c ++ s) =
      (stringRest s).map (fun (cs, r) => (consChar (some c) cs, r)) := by
  rcases escapeChar_cases c with ⟨d, t, hescape, hread⟩ | ⟨hself, hquote, hslash, hspace⟩
  · have hshorter : s.length < (d :: t ++ s).length := by
      rw [List.length_append, List.length_cons]
      omega
    rw [hescape, List.cons_append, stringRest, if_neg (by decide), if_pos rfl, hread]
    simp only [if_pos hshorter]
  · rw [hself, List.singleton_append, stringRest, if_neg hquote, if_neg hslash, if_neg hspace]

theorem stringRest_flatMap (cs s : List Char) :
    stringRest (cs.flatMap escapeChar ++ '"' :: s) = some (some cs, s) := by
  induction cs with
  | nil => rw [List.flatMap_nil, List.nil_append, stringRest, if_pos rfl]
  | cons c cs ih =>
      rw [List.flatMap_cons, List.append_assoc, stringRest_escapeChar, ih]
      rfl

theorem string_renderString (text : Option String) (s : List Char) :
    string (renderString text ++ s) = some (text, s) := by
  cases text with
  | some text =>
      have h := stringRest_flatMap text.toList s
      simp only [renderString, List.cons_append, List.append_assoc, List.nil_append, string,
        Text.expect, if_true, Option.bind_eq_bind, Option.bind_some, h, Option.map_some,
        String.ofList_toList]
      rfl
  | none =>
      have hhalf : escape ('u' :: 'd' :: '8' :: '0' :: '0' :: '"' :: s) =
          some (none, '"' :: s) := by
        rw [escape, unicodeEscape, fixedDigits_four _ (by decide)]
        rfl
      have hrest : stringRest ('\\' :: 'u' :: 'd' :: '8' :: '0' :: '0' :: '"' :: s) =
          some (none, s) := by
        have hempty : stringRest ('"' :: s) = some (some [], s) := by rw [stringRest, if_pos rfl]
        rw [stringRest, if_neg (by decide), if_pos rfl, hhalf]
        simp [hempty, consChar]
      simp only [renderString, List.cons_append, List.nil_append, string, Text.expect, if_true,
        Option.bind_eq_bind, Option.bind_some, hrest, Option.map_none]
      rfl

end Json

end TypeAudit
