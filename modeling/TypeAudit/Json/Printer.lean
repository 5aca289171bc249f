import TypeAudit.Json.Value

/-! # Printing JSON

Values are printed without blanks.  In a string only the quote, the backslash and the controls
below the space are escaped, the common controls by a letter. -/

namespace TypeAudit.Json

/-- A hexadecimal digit in lower case. -/
def hexDigit (n : Nat) : Char := Nat.digitChar n

/-- One character inside quotes. -/
def escapeChar (c : Char) : List Char :=
  if c = '"' ∨ c = '\\' then ['\\', c]
  else if c = '\x08' then ['\\', 'b']
  else if c = '\x0c' then ['\\', 'f']
  else if c = '\n' then ['\\', 'n']
  else if c = '\r' then ['\\', 'r']
  else if c = '\t' then ['\\', 't']
  else if c.toNat < 0x20 then
    ['\\', 'u', '0', '0', hexDigit (c.toNat / 16), hexDigit (c.toNat % 16)]
  else [c]

/-- A string literal; one that denotes no text is printed as half of a surrogate pair. -/
def renderString : Option String → List Char
  | some text => '"' :: text.toList.flatMap escapeChar ++ ['"']
  | none => ['"', '\\', 'u', 'd', '8', '0', '0', '"']

def renderNumber (n : Number) : List Char :=
  let exponent :=
    match n.exponent with
    | none => []
    | some (.ofNat e) => 'e' :: Text.decimal e
    | some (.negSucc e) => 'e' :: '-' :: Text.decimal (e + 1)
  (if n.negative then ['-'] else []) ++ Text.decimal n.whole
    ++ (if n.fraction.isEmpty then [] else '.' :: n.fraction) ++ exponent

mutual

def render : Value → List Char
  | .null => ['n', 'u', 'l', 'l']
  | .boolean true => ['t', 'r', 'u', 'e']
  | .boolean false => ['f', 'a', 'l', 's', 'e']
  | .number n => renderNumber n
  | .string text => renderString text
  | .array elements => '[' :: renderElements elements ++ [']']
  | .object members => '{' :: renderMembers members ++ ['}']

def renderElements : List Value → List Char
  | [] => []
  | [v] => render v
  | v :: vs => render v ++ ',' :: renderElements vs

def renderMembers : List (Option String × Value) → List Char
  | [] => []
  | [(key, v)] => renderString key ++ ':' :: render v
  | (key, v) :: ms => renderString key ++ ':' :: render v ++ ',' :: renderMembers ms

end

end TypeAudit.Json
