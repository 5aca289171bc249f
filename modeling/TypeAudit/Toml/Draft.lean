import TypeAudit.Toml.Value

/-! # Tables under construction

A document defines its tables piecemeal: by headers, by the parents that headers imply, by
dotted keys, and element by element for arrays of tables.  A draft remembers for each table how
it came about, because that decides what may still be added to it:

* a dotted key may not enter a table that has a header, and may add a key only to a table that
  dotted keys made;
* a header may enter any table, and may define only a table that is new or merely implied by a
  header below it.  A table that gets its header late moves behind its siblings. -/

namespace TypeAudit.Toml

/-- How a table came about. -/
inductive Origin where
  /-- It has a header of its own, or is an element of an array of tables. -/
  | header
  /-- It is the parent of a table with a header. -/
  | implied
  /-- It is the parent of a dotted key. -/
  | dotted
deriving DecidableEq, Repr

/-- An item of a table under construction. -/
inductive Item where
  | value (v : Value)
  | table (origin : Origin) (entries : List (String × Item))
  | elements (tables : List (List (String × Item)))
deriving Repr

/-- A table under construction: its entries in order, each key once. -/
abbrev Draft := List (String × Item)

/-- A possibly dotted key. -/
structure KeyPath where
  parents : List String
  name : String
deriving DecidableEq, Repr

structure Pair where
  key : KeyPath
  value : Value
deriving Repr

namespace Item

mutual

/-- The finished value of an item. -/
def toValue : Item → Value
  | value v => v
  | table _ entries => .table (toTable entries)
  | elements tables => .array (toArray tables)

def toTable : List (String × Item) → List (String × Value)
  | [] => []
  | (key, item) :: rest => (key, toValue item) :: toTable rest

def toArray : List (List (String × Item)) → List Value
  | [] => []
  | entries :: rest => .table (toTable entries) :: toArray rest

end

end Item

namespace Draft

/-- Put an item in the place of the item with the same key. -/
def replace (d : Draft) (key : String) (item : Item) : Draft :=
  d.map (fun entry => if entry.1 = key then (key, item) else entry)

/-- Append an item under a new key. -/
def add (d : Draft) (key : String) (item : Item) : Option Draft :=
  if (d.lookup key).isSome then none else some (d ++ [(key, item)])

/-- Change the table at the end of a path, making the tables on the way that are missing.
`dots` tells a dotted key from a header; `f` also gets the origin of the table it changes. -/
def modifyAt (dots : Bool) (f : Origin → Draft → Option Draft) :
    List String → Origin → Draft → Option Draft
  | [], origin, d => f origin d
  | key :: path, _, d =>
    match d.lookup key with
    | none =>
      let origin := if dots then .dotted else .implied
      (modifyAt dots f path origin []).map (fun t => d ++ [(key, .table origin t)])
    | some (.value _) => none
    | some (.table origin t) =>
      if dots && origin = .header then none
      else (modifyAt dots f path origin t).map (fun t => replace d key (.table origin t))
    | some (.elements ts) =>
      match ts.getLast? with
      | none => none
      | some t =>
        (modifyAt dots f path .header t).map
          (fun t => replace d key (.elements (ts.dropLast ++ [t])))

/-- Define a key, which may be dotted. -/
def insert (d : Draft) (pair : Pair) : Option Draft :=
  modifyAt true
    (fun origin t =>
      if pair.key.parents.isEmpty || origin = .dotted then add t pair.key.name (.value pair.value)
      else none)
    pair.key.parents .header d

def insertAll (d : Draft) (pairs : List Pair) : Option Draft := pairs.foldlM insert d

/-- Define the table under a header, with the keys below the header. -/
def defineTable (d : Draft) (header : KeyPath) (pairs : List Pair) : Option Draft :=
  modifyAt false
    (fun _ parent =>
      match parent.lookup header.name with
      | none => (insertAll [] pairs).map (fun t => parent ++ [(header.name, .table .header t)])
      | some (.table .implied t) =>
        (insertAll t pairs).map (fun t =>
          parent.filter (fun entry => !(entry.1 == header.name))
            ++ [(header.name, .table .header t)])
      | some _ => none)
    header.parents .header d

/-- Append an element to the array of tables under a header. -/
def defineElement (d : Draft) (header : KeyPath) (pairs : List Pair) : Option Draft :=
  modifyAt false
    (fun _ parent =>
      (insertAll [] pairs).bind (fun t =>
        match parent.lookup header.name with
        | none => some (parent ++ [(header.name, .elements [t])])
        | some (.elements ts) => some (replace parent header.name (.elements (ts ++ [t])))
        | some _ => none))
    header.parents .header d

end Draft

end TypeAudit.Toml
