import CredStore.Json.Sorted
import CredStore.Value.Basic

/-!
# JSON objects as values

A credential may be any JSON object; it is kept sorted. Its keys are shown on inspection, what
stands under them is not.
-/

namespace CredStore

/-- A JSON object as a value. -/
structure JsonValue where
  members : SortedMembers
  deriving BEq

namespace JsonValue

/-- The kind of a document, in words. -/
def kindOf : Json → String
  | .null => "null"
  | .bool _ => "boolean"
  | .number _ => "number"
  | .text _ => "string"
  | .list _ => "array"
  | .object _ => "object"

/-- The value with this document, which must be an object. -/
def ofDocument (j : Json) : Outcome JsonValue :=
  match j with
  | .object ms => .ok ⟨.ofList ms⟩
  | j => refuse (.notAnObject (kindOf j))

/-- The key that a document stands for: a text is itself, a truth value and a number are their
texts. -/
def keyOf? : Json → Option String
  | .text s => some s
  | .bool b => some (if b then "true" else "false")
  | .number n => some n.text
  | _ => none

/-- One entry as the member of an object. -/
def entry (e : Json × Json) : Outcome (String × Json) :=
  match keyOf? e.1 with
  | some key => .ok (key, e.2)
  | none => .error (.serialization "key must be a string")

/-- The value with these entries, in this order; of two equal keys the later counts. -/
def ofEntries (entries : List (Json × Json)) : Outcome JsonValue :=
  (entries.mapM entry).map fun ms => ⟨.ofList ms⟩

/-- What stands under a key. -/
def get? (v : JsonValue) (key : String) : Option Json :=
  v.members.toList.get? key

end JsonValue

instance : CredentialValue JsonValue where
  tag _ := .json
  ofWire := ofTagged .json "JsonCredential" fun j =>
    (Decoder.members j).map fun ms => ⟨.ofList ms⟩
  isDeserialization := isDeserialization_of_ofTagged
  toJson v := .object v.members.toList
  inspect v := .record "JsonCredential" [("keys", .list (v.members.keys.map .text))]

end CredStore
