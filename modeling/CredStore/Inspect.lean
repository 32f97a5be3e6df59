import CredStore.Text.Quoted

/-!
# Inspection forms

What a value shows of itself to a person who debugs: a tree of named records, wrapped values,
lists and quoted text, rendered on one line. A type says what it shows by a function to `Inspect`;
what is not in the tree cannot be in the text.
-/

namespace CredStore

/-- The tree that an inspected value shows. -/
inductive Inspect where
  /-- A bare word or number. -/
  | atom (word : String)
  /-- Text, shown quoted. -/
  | text (s : String)
  /-- A name with labelled parts. -/
  | record (name : String) (fields : List (String × Inspect))
  /-- A name around one value. -/
  | wrap (name : String) (inner : Inspect)
  /-- Values in order. -/
  | list (items : List Inspect)

namespace Inspect

mutual

/-- The tree on one line. -/
def render : Inspect → String
  | .atom word => word
  | .text s => Text.quoted s
  | .record name fields => name ++ " \x7b " ++ ", ".intercalate (renderFields fields) ++ " \x7d"
  | .wrap name inner => name ++ "(" ++ render inner ++ ")"
  | .list items => "[" ++ ", ".intercalate (renderItems items) ++ "]"

/-- Each labelled part as `label: value`. -/
def renderFields : List (String × Inspect) → List String
  | [] => []
  | (label, x) :: rest => (label ++ ": " ++ render x) :: renderFields rest

/-- Each value. -/
def renderItems : List Inspect → List String
  | [] => []
  | x :: rest => render x :: renderItems rest

end

/-- A value that may be absent. -/
def option {α : Type} (f : α → Inspect) : Option α → Inspect
  | none => .atom "None"
  | some a => .wrap "Some" (f a)

/-- A truth value. -/
def bool (b : Bool) : Inspect :=
  .atom (if b then "true" else "false")

end Inspect

end CredStore
