import TypeAudit.Json.Value
import TypeAudit.Text.Reader

/-! # Parsing JSON

`parse?` reads a whole text as one value.  The parser judges the syntax alone: every depth of
nesting, every size of number and every pairing of surrogate escapes is read, and it is left to
the reader of the value what to make of it. -/

namespace TypeAudit.Json

open Text (Reader expect expectAll)

/-- The blanks between the tokens. -/
def isBlank (c : Char) : Bool := c = ' ' || c = '\n' || c = '\t' || c = '\r'

def skipBlanks (s : List Char) : List Char := s.dropWhile isBlank

/-! ### Strings -/

def isHighSurrogate (unit : Nat) : Bool := 0xD800 ≤ unit && unit < 0xDC00

def isLowSurrogate (unit : Nat) : Bool := 0xDC00 ≤ unit && unit < 0xE000

/-- The second half of a surrogate pair, written as an escape of its own. -/
def lowSurrogate : List Char → Option (Nat × List Char)
  | '\\' :: 'u' :: s => (Text.fixedDigits 16 4 s).filter (fun (unit, _) => isLowSurrogate unit)
  | _ => none

/-- A character given by its code units; none if half of a surrogate pair stands alone. -/
def unicodeEscape (s : List Char) : Option (Option Char × List Char) := do
  let (unit, rest) ← Text.fixedDigits 16 4 s
  if isHighSurrogate unit then
    match lowSurrogate rest with
    | some (low, rest) =>
      some (some (Char.ofNat (0x10000 + (unit - 0xD800) * 0x400 + (low - 0xDC00))), rest)
    | none => some (none, rest)
  else if isLowSurrogate unit then some (none, rest)
  else some (some (Char.ofNat unit), rest)

/-- An escaped character, after its backslash. -/
def escape : List Char → Option (Option Char × List Char)
  | '"' :: s => some (some '"', s)
  | '\\' :: s => some (some '\\', s)
  | '/' :: s => some (some '/', s)
  | 'b' :: s => some (some '\x08', s)
  | 'f' :: s => some (some '\x0c', s)
  | 'n' :: s => some (some '\n', s)
  | 'r' :: s => some (some '\r', s)
  | 't' :: s => some (some '\t', s)
  | 'u' :: s => unicodeEscape s
  | _ => none

/-- A character in front of the rest of a text, if both are there. -/
def consChar (c : Option Char) (cs : Option (List Char)) : Option (List Char) :=
  match c, cs with
  | some c, some cs => some (c :: cs)
  | _, _ => none

/-- The rest of a string literal, after its opening quote. -/
def stringRest (s : List Char) : Option (Option (List Char) × List Char) :=
  match s with
  | [] => none
  | c :: rest =>
    if c = '"' then some (some [], rest)
    else if c = '\\' then
      match escape rest with
      | none => none
      | some (d, next) =>
        if next.length < rest.length then
          (stringRest next).map (fun (cs, r) => (consChar d cs, r))
        else none
    else if c.toNat < 0x20 then none
    else (stringRest rest).map (fun (cs, r) => (consChar (some c) cs, r))
termination_by s.length

def string (s : List Char) : Option (Option String × List Char) := do
  let s ← expect '"' s
  let (cs, rest) ← stringRest s
  pure (cs.map String.ofList, rest)

/-! ### Numbers -/

def digits (s : List Char) : List Char × List Char :=
  (s.takeWhile (Text.isDigit 10), s.dropWhile (Text.isDigit 10))

/-- The whole part: zero, or digits that start with another. -/
def whole (s : List Char) : Option (Nat × List Char) :=
  match s with
  | '0' :: rest => some (0, rest)
  | _ =>
    let (ds, rest) := digits s
    if ds.isEmpty then none else some (Text.ofDigits 10 ds, rest)

/-- The decimal places, if a point and a digit follow. -/
def fraction (s : List Char) : List Char × List Char :=
  match s with
  | '.' :: rest =>
    let (ds, rest) := digits rest
    if ds.isEmpty then ([], s) else (ds, rest)
  | _ => ([], s)

/-- The exponent, if its mark and a digit follow. -/
def exponent (s : List Char) : Option Int × List Char :=
  match s with
  | [] => (none, s)
  | c :: rest =>
    if c = 'e' ∨ c = 'E' then
      let (negative, rest) := Text.sign rest
      let (ds, rest) := digits rest
      if ds.isEmpty then (none, s)
      else (some (Text.signed negative (Text.ofDigits 10 ds)), rest)
    else (none, s)

/-- The sign of a number; a plus is not allowed. -/
def minus : List Char → Bool × List Char
  | '-' :: s => (true, s)
  | s => (false, s)

def number (s : List Char) : Option (Number × List Char) := do
  let (negative, s) := minus s
  let (whole, s) ← whole s
  let (fraction, s) := fraction s
  let (exponent, s) := exponent s
  pure ({ negative, whole, fraction, exponent }, s)

/-! ### Values -/

/-- A member of an object, with the blanks around its parts. -/
def member (value : Reader Value) (s : List Char) :
    Option ((Option String × Value) × List Char) := do
  let (key, s) ← string (skipBlanks s)
  let s ← expect ':' (skipBlanks s)
  let (v, s) ← value (skipBlanks s)
  pure ((key, v), skipBlanks s)

/-- An element of an array, with the blanks around it. -/
def element (value : Reader Value) (s : List Char) : Option (Value × List Char) := do
  let (v, s) ← value (skipBlanks s)
  pure (v, skipBlanks s)

/-- Items with commas between them, up to a closing bracket; there may be none. -/
def items {α : Type} (item : Reader α) (close : Char) (s : List Char) :
    Option (List α × List Char) :=
  match expect close (skipBlanks s) with
  | some rest => some ([], rest)
  | none => do
    let (as, s) ← Text.sepBy item ',' s
    let s ← expect close s
    pure (as, s)

/-- A value with arrays and objects nested up to a depth. -/
def value : Nat → List Char → Option (Value × List Char)
  | 0, _ => none
  | _ + 1, [] => none
  | depth + 1, c :: rest =>
    if c = '"' then (string (c :: rest)).map (fun (text, s) => (.string text, s))
    else if c = '[' then
      (items (element (value depth)) ']' rest).map (fun (vs, s) => (.array vs, s))
    else if c = '{' then
      (items (member (value depth)) '}' rest).map (fun (ms, s) => (.object ms, s))
    else if c = 'n' then (expectAll ['u', 'l', 'l'] rest).map (fun s => (.null, s))
    else if c = 't' then (expectAll ['r', 'u', 'e'] rest).map (fun s => (.boolean true, s))
    else if c = 'f' then (expectAll ['a', 'l', 's', 'e'] rest).map (fun s => (.boolean false, s))
    else (number (c :: rest)).map (fun (n, s) => (.number n, s))

/-- Read a text as one value; no value is nested deeper than its text is long. -/
def parse? (s : List Char) : Option Value := do
  let (v, rest) ← value (s.length + 1) (skipBlanks s)
  if (skipBlanks rest).isEmpty then some v else none

end TypeAudit.Json
