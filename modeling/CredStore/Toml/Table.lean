/-!
# Tables of a TOML document

A document grows line by line: a header opens a table or adds one to a series, and a pair sets a
value under a key that may lead through further tables. No table and no value is defined twice.
-/

namespace CredStore.Toml

/-- A node of the document. -/
inductive Node where
  /-- A text. -/
  | text (s : String)
  /-- Any other value. -/
  | other
  /-- A table. It is implied when no header has opened it, and dotted when a dotted key has made
  it. -/
  | table (implied dotted : Bool) (entries : List (String × Node))
  /-- A series of tables. -/
  | series (tables : List Node)
  deriving Inhabited

namespace Node

/-- A table that a header has opened. -/
def opened (entries : List (String × Node)) : Node :=
  .table false false entries

/-- Replaces the node under a key, or adds it at the end. -/
def set (key : String) (value : Node) : List (String × Node) → List (String × Node)
  | [] => [(key, value)]
  | (k, v) :: rest => if k = key then (k, value) :: rest else (k, v) :: set key value rest

/-- Changes the table that a path leads to. Tables on the way that do not exist are made; a path of
a dotted key must not lead through a table that a header has opened. A series is entered at its
last table. -/
def change (dotted : Bool) (f : Node → Option Node) : (path : List String) → Node → Option Node
  | [], node => f node
  | key :: path, .table implied wasDotted entries => do
    let child ← match entries.lookup key with
      | none => change dotted f path (.table true dotted [])
      | some (.table i d es) =>
        if dotted && !i then none else change dotted f path (.table i d es)
      | some (.series tables) =>
        match tables.getLast? with
        | some last => (change dotted f path last).map fun t => .series (tables.dropLast ++ [t])
        | none => none
      | some _ => none
    return .table implied wasDotted (set key child entries)
  | _ :: _, _ => none

/-- Sets a new key of a table that a dotted key leads to, or of the table itself when `nested` is
false. A table is filled by dotted keys only or by plain ones only. -/
def define (nested : Bool) (key : String) (value : Node) : Node → Option Node
  | .table implied dotted entries =>
    if dotted != nested ∨ (entries.lookup key).isSome then none
    else some (.table implied dotted (entries ++ [(key, value)]))
  | _ => none

/-- Sets the value of a key that leads through `path`. -/
def pair (node : Node) (path : List String) (key : String) (value : Node) : Option Node :=
  node.change true (define (!path.isEmpty) key value) path

/-- Opens a table in its parent. One that is only implied is opened now. -/
def openTable (key : String) : Node → Option Node
  | .table implied dotted entries =>
    match entries.lookup key with
    | none => some (.table implied dotted (entries ++ [(key, opened [])]))
    | some (.table true false es) => some (.table implied dotted (set key (opened es) entries))
    | some _ => none
  | _ => none

/-- Adds a table to a series in its parent. -/
def addTable (key : String) : Node → Option Node
  | .table implied dotted entries =>
    match entries.lookup key with
    | none => some (.table implied dotted (entries ++ [(key, .series [opened []])]))
    | some (.series ts) =>
      some (.table implied dotted (set key (.series (ts ++ [opened []])) entries))
    | some _ => none
  | _ => none

end Node

end CredStore.Toml
