import TypeAudit.Toml.Draft
import TypeAudit.Toml.Scalar

/-! # TOML documents

A document is a list of lines that define keys, interspersed with headers: the keys before the
first header belong to the document itself, those after a header to the table or the array
element it opens.  `parse?` reads the lines and builds the tables section by section.

Arrays may spread over lines and end in a comma; inline tables may do neither. -/

namespace TypeAudit.Toml

open Text (Reader expect expectAll)

/-- A key within the limit on its parts. -/
def keyPath (s : List Char) : Option (KeyPath × List Char) :=
  match keyParts s with
  | none => none
  | some (parts, rest) =>
    match parts.getLast? with
    | none => none
    | some name =>
      if parts.length < nestingLimit then some (⟨parts.dropLast, name⟩, rest) else none

def pair (value : Reader Value) (s : List Char) : Option (Pair × List Char) := do
  let (key, s) ← keyPath s
  let s ← expect '=' s
  let (v, s) ← value (skipBlanks s)
  pure (⟨key, v⟩, s)

/-- The elements of an array and its closing bracket. -/
def arrayRest (value : Reader Value) (s : List Char) : Option (List Value × List Char) :=
  let start := skipFiller s
  match expect ']' start with
  | some rest => some ([], rest)
  | none =>
    match value start with
    | none => none
    | some (v, rest) =>
      let rest := skipFiller rest
      match expect ',' rest with
      | none => (expect ']' rest).map (fun rest => ([v], rest))
      | some next =>
        if next.length < s.length then
          (arrayRest value next).map (fun (vs, rest) => (v :: vs, rest))
        else none
termination_by s.length

/-- The pairs of an inline table and its closing brace. -/
def inlineRest (value : Reader Value) (s : List Char) : Option (List Pair × List Char) :=
  match expect '}' (skipBlanks s) with
  | some rest => some ([], rest)
  | none => do
    let (pairs, rest) ← Text.sepBy
      (fun s => (pair value s).map (fun (p, rest) => (p, skipBlanks rest))) ',' s
    let rest ← expect '}' rest
    pure (pairs, rest)

/-- A value, with arrays and inline tables nested up to a depth. -/
def value : Nat → List Char → Option (Value × List Char)
  | 0, s => scalarValue s
  | depth + 1, s =>
    match s with
    | '[' :: rest => (arrayRest (value depth) rest).map (fun (vs, rest) => (.array vs, rest))
    | '{' :: rest =>
      (inlineRest (value depth) rest).bind (fun (pairs, rest) =>
        (Draft.insertAll [] pairs).map (fun d => (.table (Item.toTable d), rest)))
    | _ => scalarValue s

/-- A line of a document that is not blank. -/
inductive Line where
  | pair (p : Pair)
  | table (header : KeyPath)
  | element (header : KeyPath)
deriving Repr

/-- A line, without its line end; `none` for a blank one. -/
def lineBody (s : List Char) : Option (Option Line × List Char) :=
  match skipBlanks s with
  | [] => some (none, [])
  | '#' :: rest => some (none, '#' :: rest)
  | '\n' :: rest => some (none, '\n' :: rest)
  | '\r' :: rest => some (none, '\r' :: rest)
  | '[' :: '[' :: rest => do
    let (header, rest) ← keyPath rest
    let rest ← expectAll [']', ']'] rest
    pure (some (.element header), rest)
  | '[' :: rest => do
    let (header, rest) ← keyPath rest
    let rest ← expect ']' rest
    pure (some (.table header), rest)
  | s => (pair (value (nestingLimit - 1)) s).map (fun (p, rest) => (some (.pair p), rest))

def line (s : List Char) : Option (Option Line × List Char) := do
  let (body, rest) ← lineBody s
  let rest ← lineEnd rest
  pure (body, rest)

/-- The keys at the front of some lines, up to the next header. -/
def leadingPairs : List Line → List Pair
  | .pair p :: lines => p :: leadingPairs lines
  | _ => []

/-- Add the sections of a document, one per header. -/
def addSections (d : Draft) : List Line → Option Draft
  | [] => some d
  | .pair _ :: lines => addSections d lines
  | .table header :: lines =>
    (d.defineTable header (leadingPairs lines)).bind (addSections · lines)
  | .element header :: lines =>
    (d.defineElement header (leadingPairs lines)).bind (addSections · lines)

/-- The table that the lines of a document define. -/
def assemble (lines : List Line) : Option Table :=
  ((Draft.insertAll [] (leadingPairs lines)).bind (addSections · lines)).map Item.toTable

/-- A byte order mark at the front of a text is no part of it. -/
def skipMark : List Char → List Char
  | '\uFEFF' :: s => s
  | s => s

/-- Read a document; `none` if the text is malformed or defines something twice. -/
def parse? (text : String) : Option Table :=
  (Text.readAll line (skipMark text.toList)).bind (fun lines => assemble (lines.filterMap id))

end TypeAudit.Toml
