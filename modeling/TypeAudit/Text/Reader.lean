/-! # Readers and numbers

A reader takes what it can use from the front of a text and returns it with the rest, or fails.
Loops over a reader go on only while the rest gets shorter, so every reader here is total.

Numbers are read from runs of digits in a base, with or without a sign, and written as decimal
digits, which can be padded with zeros.  A double has 53 significant bits, and numbers from
`overflowBound` on round to infinity.  Only natural numbers are rounded here: the readers of number
literals ask whether a literal still denotes a finite double, never for its value. -/

namespace TypeAudit.Text

/-! ### Readers -/

/-- A reader of values from the front of a text. -/
abbrev Reader (α : Type) := List Char → Option (α × List Char)

def expect (c : Char) : List Char → Option (List Char)
  | [] => none
  | d :: rest => if d = c then some rest else none

def expectAll : List Char → List Char → Option (List Char)
  | [], s => some s
  | c :: cs, s => (expect c s).bind (expectAll cs)

/-- One or more items with `sep` between them. -/
def sepBy {α : Type} (item : Reader α) (sep : Char) (s : List Char) :
    Option (List α × List Char) :=
  match item s with
  | none => none
  | some (a, rest) =>
    match expect sep rest with
    | none => some ([a], rest)
    | some next =>
      if next.length < s.length then
        (sepBy item sep next).map (fun (as, rest) => (a :: as, rest))
      else none
termination_by s.length

/-- Read all of a text, piece by piece. -/
def readAll {α : Type} (piece : Reader α) (s : List Char) : Option (List α) :=
  if s.isEmpty then some []
  else
    match piece s with
    | none => none
    | some (a, rest) =>
      if rest.length < s.length then (readAll piece rest).map (a :: ·) else none
termination_by s.length

/-! ### Digits -/

/-- The value of a digit in a base up to sixteen. -/
def digit? (base : Nat) (c : Char) : Option Nat :=
  let n := c.toNat
  let d :=
    if '0'.toNat ≤ n ∧ n ≤ '9'.toNat then some (n - '0'.toNat)
    else if 'a'.toNat ≤ n ∧ n ≤ 'f'.toNat then some (n - 'a'.toNat + 10)
    else if 'A'.toNat ≤ n ∧ n ≤ 'F'.toNat then some (n - 'A'.toNat + 10)
    else none
  d.filter (· < base)

def isDigit (base : Nat) (c : Char) : Bool := (digit? base c).isSome

/-- The number that a run of digits denotes. -/
def ofDigits (base : Nat) (ds : List Char) : Nat :=
  ds.foldl (fun n c => n * base + (digit? base c).getD 0) 0

/-- Read exactly `count` digits as a number. -/
def fixedDigits (base count : Nat) (s : List Char) : Option (Nat × List Char) :=
  let ds := s.take count
  if ds.length = count ∧ ds.all (isDigit base) then some (ofDigits base ds, s.drop count)
  else none

/-- An optional sign; the flag says that it is a minus. -/
def sign : List Char → Bool × List Char
  | '-' :: s => (true, s)
  | '+' :: s => (false, s)
  | s => (false, s)

def signed (negative : Bool) (n : Nat) : Int := if negative then -(n : Int) else n

/-- The decimal digits of a number, without leading zeros. -/
def decimal (n : Nat) : List Char := Nat.toDigits 10 n

/-- The decimal digits of a number, with leading zeros up to a width. -/
def padded (width n : Nat) : List Char :=
  let ds := decimal n
  List.replicate (width - ds.length) '0' ++ ds

/-! ### The range of double precision -/

/-- The least natural number that rounds to infinity. -/
def overflowBound : Nat := Nat.pow 2 1024 - Nat.pow 2 970

/-- The nearest number with 53 significant bits; ties go to the even one. -/
def nearestDouble (n : Nat) : Nat :=
  let unit := Nat.pow 2 (n.log2 - 52)
  let q := n / unit
  let r := n % unit
  if 2 * r > unit ∨ (2 * r = unit ∧ q % 2 = 1) then (q + 1) * unit else q * unit

end TypeAudit.Text
