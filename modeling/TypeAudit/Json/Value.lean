import TypeAudit.Text.Reader

/-! # JSON values

A value as a JSON text denotes it.  The members of an object keep their order and may repeat a
key.  A string literal denotes a text, or nothing (`none`) if an escape in it is half of a
surrogate pair without the other half. -/

namespace TypeAudit.Json

/-- A number literal: sign, whole part, decimal places and exponent. -/
structure Number where
  negative : Bool := false
  whole : Nat
  fraction : List Char := []
  exponent : Option Int := none
deriving DecidableEq, Repr

/-- A JSON value. -/
inductive Value where
  | null
  | boolean (b : Bool)
  | number (n : Number)
  | string (text : Option String)
  | array (elements : List Value)
  | object (members : List (Option String × Value))
deriving Repr

/-! ### Numbers -/

namespace Number

/-- Natural numbers below this bound fit 64 bits. -/
def wordBound : Nat := 0x10000000000000000

def ofNat (n : Nat) : Number := { whole := n }

/-- The natural number of an unsigned 64-bit integer literal. -/
def toNat? (n : Number) : Option Nat :=
  if !n.negative && n.fraction.isEmpty && n.exponent.isNone && n.whole < wordBound then some n.whole
  else none

/-- The leading digits that fit 64 bits, and the number of digits after them. -/
def leading (n : Nat) : Nat × Nat :=
  if n < wordBound then (n, 0)
  else
    let (m, dropped) := leading (n / 10)
    (m, dropped + 1)
termination_by n
decreasing_by simp only [wordBound] at *; omega

/-- Decimal places go on extending a significand while it fits 64 bits. -/
def absorb : Nat → Int → List Char → Nat × Int
  | significand, scale, [] => (significand, scale)
  | significand, scale, c :: cs =>
    let next := significand * 10 + (Text.digit? 10 c).getD 0
    if next < wordBound then absorb next (scale - 1) cs else (significand, scale)

/-- The number does not round to infinity when its significand is scaled in double precision. -/
def isFinite (n : Number) : Bool :=
  let (m, dropped) := leading n.whole
  let (significand, scale) := absorb m dropped n.fraction
  match scale + n.exponent.getD 0 with
  | .negSucc _ => true
  | .ofNat e =>
    significand = 0 ||
      (e ≤ 308 &&
        Text.nearestDouble significand * Text.nearestDouble (Nat.pow 10 e) < Text.overflowBound)

end Number

/-! ### Whole values -/

namespace Value

mutual

/-- Depth of the arrays and objects nested in a value. -/
def depth : Value → Nat
  | array elements => depthOfElements elements + 1
  | object members => depthOfMembers members + 1
  | _ => 0

def depthOfElements : List Value → Nat
  | [] => 0
  | v :: vs => max (depth v) (depthOfElements vs)

def depthOfMembers : List (Option String × Value) → Nat
  | [] => 0
  | (_, v) :: ms => max (depth v) (depthOfMembers ms)

end

mutual

/-- Every string in a value denotes a text and every number is finite. -/
def isSound : Value → Bool
  | number n => n.isFinite
  | string text => text.isSome
  | array elements => areSound elements
  | object members => membersAreSound members
  | _ => true

def areSound : List Value → Bool
  | [] => true
  | v :: vs => isSound v && areSound vs

def membersAreSound : List (Option String × Value) → Bool
  | [] => true
  | (key, v) :: ms => key.isSome && isSound v && membersAreSound ms

end

def text? : Value → Option String
  | string text => text
  | _ => none

/-- The number of an unsigned 64-bit integer. -/
def nat? : Value → Option Nat
  | number n => n.toNat?
  | _ => none

end Value

/-- The value of a key that stands exactly once among some members. -/
def only? (members : List (Option String × Value)) (key : String) : Option Value :=
  match members.filter (fun m => m.1 == some key) with
  | [(_, v)] => some v
  | _ => none

end TypeAudit.Json
