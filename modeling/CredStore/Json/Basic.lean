import CredStore.Json.Number

/-!
# JSON documents

The tree of a document. An object keeps its members in a list: a document that was read or sorted
has them in rising order of their keys, each key once; a document that is being written has them
in the order in which they are written.
-/

namespace CredStore

/-- A JSON document. -/
inductive Json where
  | null
  | bool (b : Bool)
  | number (n : Number)
  | text (s : String)
  | list (items : List Json)
  | object (members : List (String × Json))
  deriving BEq, Inhabited

/-- The members of an object. -/
abbrev Members := List (String × Json)

namespace Members

/-- Sets a member of a sorted object; the new value replaces an old one. -/
def insert (key : String) (value : Json) : Members → Members
  | [] => [(key, value)]
  | (k, v) :: rest =>
    if key < k then (key, value) :: (k, v) :: rest
    else if key = k then (key, value) :: rest
    else (k, v) :: insert key value rest

/-- The sorted object with these members; of two equal keys the later counts. -/
def ofList (members : List (String × Json)) : Members :=
  members.foldl (fun o m => insert m.1 m.2 o) []

/-- The keys in order. -/
def keys (o : Members) : List String :=
  o.map Prod.fst

/-- The value under a key. -/
def get? (o : Members) (key : String) : Option Json :=
  o.lookup key

end Members

namespace Json

/-- A whole number. -/
def int (n : Int) : Json :=
  .number (.whole n)

/-- A list of texts. -/
def texts (xs : List String) : Json :=
  .list (xs.map .text)

/-- The member for an optional field: none when the field is unset. -/
def member? {α : Type} (key : String) (f : α → Json) : Option α → Members
  | none => []
  | some a => [(key, f a)]

mutual

/-- The same document with the members of every object in rising order of their keys. -/
def sorted : Json → Json
  | .list items => .list (sortedItems items)
  | .object members => .object (Members.ofList (sortedMembers members))
  | .null => .null
  | .bool b => .bool b
  | .number n => .number n
  | .text s => .text s

/-- Each item sorted. -/
def sortedItems : List Json → List Json
  | [] => []
  | j :: rest => sorted j :: sortedItems rest

/-- The value of each member sorted, the members where they are. -/
def sortedMembers : List (String × Json) → List (String × Json)
  | [] => []
  | (k, j) :: rest => (k, sorted j) :: sortedMembers rest

end

end Json

end CredStore
