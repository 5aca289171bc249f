import TypeAudit.Text.Reader

/-! # Dates and times

A TOML date stands alone, a time of day stands alone, or both stand together, with or without an
offset from universal time.

* `Datetime.read` takes one from the front of a text.  Dates must exist in the calendar, and a
  minute may have a leap second.
* `Datetime.render` writes it in its standard form: `T` between date and time, `Z` for universal
  time, and a fraction of a second only if it is not zero. -/

namespace TypeAudit.Toml

open Text (expect padded)

/-- A day of the calendar. -/
structure Date where
  year : Nat
  month : Nat
  day : Nat
deriving DecidableEq, Repr

/-- A time of day. -/
structure Time where
  hour : Nat
  minute : Nat
  second : Nat
  nanosecond : Nat := 0
deriving DecidableEq, Repr

/-- How far a clock is from universal time. -/
inductive Offset where
  /-- The clock shows universal time. -/
  | universal
  /-- The clock is ahead by some minutes, or behind if they are negative. -/
  | ahead (minutes : Int)
deriving DecidableEq, Repr

/-- A date, a time, or both. -/
inductive Datetime where
  | date (d : Date)
  | time (t : Time)
  | both (d : Date) (t : Time) (offset : Option Offset)
deriving DecidableEq, Repr

/-! ### Reading -/

/-- A two-digit number within bounds. -/
def twoDigits (lo hi : Nat) (s : List Char) : Option (Nat × List Char) :=
  (Text.fixedDigits 10 2 s).filter (fun (n, _) => lo ≤ n && n ≤ hi)

namespace Date

/-- Number of days of a month. -/
def daysIn (year month : Nat) : Nat :=
  if month = 2 then
    if year % 4 = 0 ∧ (year % 100 ≠ 0 ∨ year % 400 = 0) then 29 else 28
  else if month = 4 ∨ month = 6 ∨ month = 9 ∨ month = 11 then 30
  else 31

/-- Take a date. -/
def read (s : List Char) : Option (Date × List Char) := do
  let (year, s) ← Text.fixedDigits 10 4 s
  let s ← expect '-' s
  let (month, s) ← twoDigits 1 12 s
  let s ← expect '-' s
  let (day, s) ← twoDigits 1 (daysIn year month) s
  pure ({ year, month, day }, s)

end Date

namespace Time

/-- Number of decimal places of a nanosecond. -/
def places : Nat := 9

/-- The nanoseconds that the digits of a fraction denote; further digits are cut off. -/
def nanoseconds (digits : List Char) : Nat :=
  Text.ofDigits 10 ((digits ++ List.replicate places '0').take places)

/-- Take a time of day. -/
def read (s : List Char) : Option (Time × List Char) := do
  let (hour, s) ← twoDigits 0 23 s
  let s ← expect ':' s
  let (minute, s) ← twoDigits 0 59 s
  let s ← expect ':' s
  let (second, s) ← twoDigits 0 60 s
  match s with
  | '.' :: rest =>
    let digits := rest.takeWhile (Text.isDigit 10)
    if digits.isEmpty then none
    else some ({ hour, minute, second, nanosecond := nanoseconds digits }, rest.drop digits.length)
  | _ => some ({ hour, minute, second }, s)

end Time

namespace Offset

def readMinutes (s : List Char) : Option (Nat × List Char) := do
  let (hours, s) ← twoDigits 0 23 s
  let s ← expect ':' s
  let (minutes, s) ← twoDigits 0 59 s
  pure (hours * 60 + minutes, s)

/-- Take an offset. -/
def read (s : List Char) : Option (Offset × List Char) :=
  let away (negative : Bool) (s : List Char) : Option (Offset × List Char) :=
    (readMinutes s).map (fun (n, rest) => (.ahead (Text.signed negative n), rest))
  match s with
  | 'Z' :: rest => some (.universal, rest)
  | 'z' :: rest => some (.universal, rest)
  | '+' :: rest => away false rest
  | '-' :: rest => away true rest
  | _ => none

end Offset

namespace Datetime

/-- The mark between a date and a time. -/
def isMark (c : Char) : Bool := c = 'T' || c = 't' || c = ' '

/-- Take the time after a date, if there is one. -/
def readAfter (d : Date) (s : List Char) : Datetime × List Char :=
  match s with
  | [] => (.date d, [])
  | mark :: clock =>
    if isMark mark then
      match Time.read clock with
      | none => (.date d, s)
      | some (t, rest) =>
        match Offset.read rest with
        | none => (.both d t none, rest)
        | some (offset, rest) => (.both d t (some offset), rest)
    else (.date d, s)

/-- Take a date, a time, or both. -/
def read (s : List Char) : Option (Datetime × List Char) :=
  match Date.read s with
  | some (d, rest) => some (readAfter d rest)
  | none => (Time.read s).map (fun (t, rest) => (.time t, rest))

/-- The date or time that is the whole of a text. -/
def ofText? (text : String) : Option Datetime :=
  match read text.toList with
  | some (d, []) => some d
  | _ => none

end Datetime

/-! ### Writing -/

def Date.render (d : Date) : List Char :=
  padded 4 d.year ++ '-' :: padded 2 d.month ++ '-' :: padded 2 d.day

/-- The standard form of a fraction of a second, without zeros at its end. -/
def Time.renderFraction (nanosecond : Nat) : List Char :=
  if nanosecond = 0 then []
  else '.' :: ((padded places nanosecond).reverse.dropWhile (· = '0')).reverse

def Time.render (t : Time) : List Char :=
  padded 2 t.hour ++ ':' :: padded 2 t.minute ++ ':' :: padded 2 t.second
    ++ renderFraction t.nanosecond

def Offset.render : Offset → List Char
  | universal => ['Z']
  | ahead minutes =>
    let n := minutes.natAbs
    (if minutes < 0 then '-' else '+') :: padded 2 (n / 60) ++ ':' :: padded 2 (n % 60)

namespace Datetime

def renderChars : Datetime → List Char
  | date d => d.render
  | time t => t.render
  | both d t offset => d.render ++ 'T' :: t.render ++ (offset.map Offset.render).getD []

def render (d : Datetime) : String := String.ofList d.renderChars

end Datetime

end TypeAudit.Toml
