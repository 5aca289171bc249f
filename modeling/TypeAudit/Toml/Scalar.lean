import TypeAudit.Toml.Token
import TypeAudit.Toml.Value

/-! # TOML numbers and other single values

Integers are signed 64-bit numbers, in decimal or, without a sign, in hexadecimal, octal or
binary.  Digits may be grouped by single underscores.  A float that is not negative must be
below the range in which doubles round to infinity.  A text that starts with a date or a time is
no number. -/

namespace TypeAudit.Toml

/-- More digits after a digit, where an underscore may stand before each. -/
def moreDigits (base : Nat) : List Char → List Char × List Char
  | [] => ([], [])
  | '_' :: c :: s =>
    if Text.isDigit base c then
      let (ds, rest) := moreDigits base s
      (c :: ds, rest)
    else ([], '_' :: c :: s)
  | c :: s =>
    if Text.isDigit base c then
      let (ds, rest) := moreDigits base s
      (c :: ds, rest)
    else ([], c :: s)

/-- One or more digits of the base. -/
def someDigits (base : Nat) : List Char → Option (List Char × List Char)
  | [] => none
  | c :: s =>
    if Text.isDigit base c then
      let (ds, rest) := moreDigits base s
      some (c :: ds, rest)
    else none

/-- The whole part of a decimal number: zero, or digits that start with another. -/
def wholeDigits : List Char → Option (List Char × List Char)
  | '0' :: s => some (['0'], s)
  | s => someDigits 10 s

/-- A fraction, if a point and a digit follow. -/
def fraction : List Char → Option (List Char × List Char)
  | '.' :: s => someDigits 10 s
  | _ => none

/-- An exponent, if its mark and a digit follow. -/
def exponent : List Char → Option (Int × List Char)
  | c :: s =>
    if c = 'e' ∨ c = 'E' then
      let (negative, s) := Text.sign s
      (someDigits 10 s).map (fun (ds, rest) => (Text.signed negative (Text.ofDigits 10 ds), rest))
    else none
  | [] => none

/-- `n · 10 ^ e` does not round to infinity as a double. -/
def isFinite (n : Nat) (e : Int) : Bool :=
  if n = 0 then true
  else
    match e with
    | .ofNat e => e < 310 && n * Nat.pow 10 e < Text.overflowBound
    | .negSucc e =>
      -- The exponent only matters while it does not exceed the number of digits.
      let digits := (Text.decimal n).length
      e + 1 > digits || n < Text.overflowBound * Nat.pow 10 (e + 1)

/-- Integers lie between the negative of this bound and the bound, which is excluded. -/
def integerBound : Int := 0x8000000000000000

/-- A decimal number after its sign: an integer, or a float if a fraction or an exponent
follows. -/
def decimalNumber (negative : Bool) (s : List Char) : Option (Value × List Char) := do
  let (whole, s) ← wholeDigits s
  let (digits, s) := (fraction s).getD ([], s)
  let exponent? := exponent s
  if digits.isEmpty && exponent?.isNone then
    let n := Text.signed negative (Text.ofDigits 10 whole)
    if -integerBound ≤ n ∧ n < integerBound then some (.integer n, s) else none
  else
    let (e, s) := exponent?.getD (0, s)
    let n := Text.ofDigits 10 (whole ++ digits)
    if negative || isFinite n (e - digits.length) then some (.float, s) else none

/-- An integer in a base with a mark of its own. -/
def basedNumber (base : Nat) (s : List Char) : Option (Value × List Char) := do
  let (digits, s) ← someDigits base s
  let n : Int := Text.ofDigits base digits
  if n < integerBound then some (.integer n, s) else none

def number (s : List Char) : Option (Value × List Char) :=
  match s with
  | '0' :: 'x' :: s => basedNumber 16 s
  | '0' :: 'o' :: s => basedNumber 8 s
  | '0' :: 'b' :: s => basedNumber 2 s
  | _ =>
    let (negative, s) := Text.sign s
    match s with
    | 'i' :: 'n' :: 'f' :: rest => some (.float, rest)
    | 'n' :: 'a' :: 'n' :: rest => some (.float, rest)
    | _ => decimalNumber negative s

def boolean : List Char → Option (Value × List Char)
  | 't' :: 'r' :: 'u' :: 'e' :: s => some (.boolean true, s)
  | 'f' :: 'a' :: 'l' :: 's' :: 'e' :: s => some (.boolean false, s)
  | _ => none

/-- A value that is neither an array nor a table. -/
def scalarValue (s : List Char) : Option (Value × List Char) :=
  ((string s).map (fun (text, rest) => (.string text, rest)))
    <|> boolean s
    <|> ((Datetime.read s).map (fun (d, rest) => (.datetime d, rest)))
    <|> number s

end TypeAudit.Toml
