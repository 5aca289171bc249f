import TypeAudit.Text.Reader

/-! # TOML tokens

Blanks, comments, line ends, keys and strings.  A line feed, alone or after a carriage return,
ends a line; a carriage return elsewhere and the other control characters except the tab are
not allowed anywhere.

A multi-line string ends at the third of its quotes in a row; up to two quotes more in front of
them still belong to the string.  Line ends in it are read as line feeds. -/

namespace TypeAudit.Toml

open Text (Reader)

/-- The character may stand in a comment or a string: no control other than the tab. -/
def isText (c : Char) : Bool := c = '\t' || (0x20 ≤ c.toNat && c.toNat ≠ 0x7F)

/-- The blanks of a line. -/
def isBlank (c : Char) : Bool := c = ' ' || c = '\t'

def skipBlanks (s : List Char) : List Char := s.dropWhile isBlank

def newline : List Char → Option (List Char)
  | '\n' :: s => some s
  | '\r' :: '\n' :: s => some s
  | _ => none

/-- Drop a comment, if one starts here. -/
def skipComment : List Char → List Char
  | '#' :: s => s.dropWhile isText
  | s => s

/-- Take the rest of a line: blanks, a comment, and the end of the line or of the text. -/
def lineEnd (s : List Char) : Option (List Char) :=
  let s := skipComment (skipBlanks s)
  if s.isEmpty then some s else newline s

/-- Drop blanks, comments and line ends. -/
def skipFiller (s : List Char) : List Char :=
  let s := skipBlanks s
  match newline (skipComment s) with
  | none => s
  | some rest => if rest.length < s.length then skipFiller rest else s
termination_by s.length
decreasing_by
  exact Nat.lt_of_lt_of_le ‹_› (List.dropWhile_suffix isBlank).length_le

/-- The character may stand in a bare key. -/
def isBare (c : Char) : Bool := c.isAlphanum || c = '_' || c = '-'

/-- A character given by its code point, which must be one of Unicode. -/
def scalar (digits : Nat) (s : List Char) : Option (Char × List Char) :=
  (Text.fixedDigits 16 digits s).bind (fun (n, rest) =>
    if n.isValidChar then some (Char.ofNat n, rest) else none)

/-- An escaped character, after its backslash. -/
def escaped : List Char → Option (Char × List Char)
  | 'b' :: s => some ('\x08', s)
  | 't' :: s => some ('\t', s)
  | 'n' :: s => some ('\n', s)
  | 'f' :: s => some ('\x0c', s)
  | 'r' :: s => some ('\r', s)
  | '"' :: s => some ('"', s)
  | '\\' :: s => some ('\\', s)
  | 'u' :: s => scalar 4 s
  | 'U' :: s => scalar 8 s
  | _ => none

/-- The rest of a string in double quotes. -/
def basicString (s : List Char) : Option (List Char × List Char) :=
  match s with
  | [] => none
  | '"' :: rest => some ([], rest)
  | '\\' :: rest =>
    match escaped rest with
    | none => none
    | some (c, next) =>
      if next.length < rest.length then (basicString next).map (fun (cs, r) => (c :: cs, r))
      else none
  | c :: rest =>
    if isText c then (basicString rest).map (fun (cs, r) => (c :: cs, r)) else none
termination_by s.length

/-- The rest of a string in single quotes, which knows no escapes. -/
def literalString : List Char → Option (List Char × List Char)
  | [] => none
  | c :: rest =>
    if c = '\'' then some ([], rest)
    else if isText c then (literalString rest).map (fun (cs, r) => (c :: cs, r))
    else none

/-- A piece of a multi-line string: what it adds to the string, and whether it ends it. -/
structure Piece where
  text : List Char
  isLast : Bool := false
deriving Repr

/-- A run of quotes inside a multi-line string: fewer than three belong to the string, more
end it. -/
def quoteRun (quote : Char) (s : List Char) : Piece × List Char :=
  let run := min 5 (s.takeWhile (· = quote)).length
  if run < 3 then (⟨List.replicate run quote, false⟩, s.drop run)
  else (⟨List.replicate (run - 3) quote, true⟩, s.drop run)

def skipBreaks : List Char → List Char
  | '\n' :: s => skipBreaks s
  | '\r' :: '\n' :: s => skipBreaks s
  | c :: s => if isBlank c then skipBreaks s else c :: s
  | [] => []

/-- A line break after a backslash: it is dropped with all blanks and line ends after it. -/
def joinLines (s : List Char) : Option (List Char) := (newline (skipBlanks s)).map skipBreaks

/-- A piece of a multi-line string in double quotes, which knows escapes, or in single ones. -/
def piece (quote : Char) (s : List Char) : Option (Piece × List Char) :=
  match s with
  | [] => none
  | c :: rest =>
    if c = quote then some (quoteRun quote s)
    else if c = '\\' ∧ quote = '"' then
      match joinLines rest with
      | some rest => some (⟨[], false⟩, rest)
      | none => (escaped rest).map (fun (d, rest) => (⟨[d], false⟩, rest))
    else
      match newline s with
      | some rest => some (⟨['\n'], false⟩, rest)
      | none =>
        let run := s.takeWhile (fun d => isText d && d ≠ quote && !(d = '\\' && quote = '"'))
        if run.isEmpty then none else some (⟨run, false⟩, s.drop run.length)

/-- The rest of a multi-line string. -/
def multiLine (quote : Char) (s : List Char) : Option (List Char × List Char) :=
  match piece quote s with
  | none => none
  | some (p, rest) =>
    if p.isLast then some (p.text, rest)
    else if rest.length < s.length then
      (multiLine quote rest).map (fun (cs, rest) => (p.text ++ cs, rest))
    else none
termination_by s.length

/-- A multi-line string after its opening quotes; a line end right after them is dropped. -/
def multiLineString (quote : Char) (s : List Char) : Option (List Char × List Char) :=
  multiLine quote ((newline s).getD s)

/-- A string of any of the four forms. -/
def string (s : List Char) : Option (String × List Char) :=
  let body :=
    match s with
    | '"' :: '"' :: '"' :: rest => multiLineString '"' rest
    | '\'' :: '\'' :: '\'' :: rest => multiLineString '\'' rest
    | '"' :: rest => basicString rest
    | '\'' :: rest => literalString rest
    | _ => none
  body.map (fun (cs, rest) => (String.ofList cs, rest))

/-- One part of a key: bare, or a string on one line. -/
def simpleKey (s : List Char) : Option (String × List Char) :=
  let body :=
    match s with
    | '"' :: rest => basicString rest
    | '\'' :: rest => literalString rest
    | _ =>
      let bare := s.takeWhile isBare
      if bare.isEmpty then none else some (bare, s.drop bare.length)
  body.map (fun (cs, rest) => (String.ofList cs, rest))

/-- Nesting of values, and the number of parts of a key, stay below this limit. -/
def nestingLimit : Nat := 80

/-- The parts of a key, with blanks around them and dots between them. -/
def keyParts : Reader (List String) :=
  Text.sepBy
    (fun s => (simpleKey (skipBlanks s)).map (fun (part, rest) => (part, skipBlanks rest))) '.'

end TypeAudit.Toml
