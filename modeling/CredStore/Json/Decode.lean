import CredStore.Json.Printer
import CredStore.Text.Place
import CredStore.Text.Quoted

/-!
# Decoding documents

A decoder turns a document into a value or says what is wrong with it. `DecodeError` holds the
causes and `DecodeError.message` all their wording.

A type that stands in documents has a `decoder` that reads it and a `toJson` that gives its
document; `record` are its fields if it has several, and `inspect` is what it shows of itself.
-/

namespace CredStore

/-- What a decoder met in place of what it wanted. -/
inductive Glimpse where
  | null
  | bool (b : Bool)
  | number (n : Number)
  | text (s : String)
  | list
  | object

/-- What a decoder meets in a document. -/
def Json.glimpse : Json → Glimpse
  | .null => .null
  | .bool b => .bool b
  | .number n => .number n
  | .text s => .text s
  | .list _ => .list
  | .object _ => .object

/-- The wording of what was met. -/
def Glimpse.message : Glimpse → String
  | .null => "null"
  | .bool b => "boolean \x60" ++ (if b then "true" else "false") ++ "\x60"
  | .number (.whole n) => "integer \x60" ++ toString n ++ "\x60"
  | .number (.real x) => "floating point \x60" ++ Number.realText x ++ "\x60"
  | .text s => "string " ++ Text.quoted s
  | .list => "sequence"
  | .object => "map"

/-- Why a document does not decode. -/
inductive DecodeError where
  /-- A value of another kind was wanted. -/
  | unexpected (found : Glimpse) (wanted : String)
  /-- A whole number outside the wanted range. -/
  | outOfRange (n : Int) (wanted : String)
  /-- An object that names a variant must have one member. -/
  | notOneMember
  | unknownVariant (found : String) (known : List String)
  | missingField (key : String)
  /-- A list that gives a record ends before a field that must be there. -/
  | tooShort (found : Nat) (record : String) (arity : Nat)
  /-- A list that gives a record goes on after the last field. -/
  | tooLong (found : Nat)
  /-- The value was read, and a rule of its type refuses it. -/
  | refused (why : String)

namespace DecodeError

/-- `x` between back quotes. -/
def ticked (x : String) : String :=
  "\x60" ++ x ++ "\x60"

/-- The wording of a cause. -/
def message : DecodeError → String
  | .unexpected found wanted => "invalid type: " ++ found.message ++ ", expected " ++ wanted
  | .outOfRange n wanted =>
    "invalid value: integer " ++ ticked (toString n) ++ ", expected " ++ wanted
  | .notOneMember => "invalid value: map, expected map with a single key"
  | .unknownVariant found known =>
    "unknown variant " ++ ticked found ++ ", expected one of " ++
      ", ".intercalate (known.map ticked)
  | .missingField key => "missing field " ++ ticked key
  | .tooShort found record arity =>
    "invalid length " ++ toString found ++ ", expected struct " ++ record ++ " with " ++
      toString arity ++ (if arity = 1 then " element" else " elements")
  | .tooLong found => "invalid length " ++ toString found ++ ", expected fewer elements in array"
  | .refused why => Text.Place.settle why

end DecodeError

/-- A way of reading a value from a document. -/
abbrev Decoder (α : Type) := Json → Except DecodeError α

namespace Decoder

variable {α β : Type}

/-- Any document. -/
def json : Decoder Json := .ok

/-- A text. -/
def text : Decoder String
  | .text s => .ok s
  | j => .error (.unexpected j.glimpse "a string")

/-- A truth value. -/
def bool : Decoder Bool
  | .bool b => .ok b
  | j => .error (.unexpected j.glimpse "a boolean")

/-- A whole number of 32 bits without sign. -/
def word : Decoder UInt32
  | .number (.whole n) =>
    if 0 ≤ n ∧ n < 4294967296 then .ok (.ofNat n.toNat) else .error (.outOfRange n "u32")
  | j => .error (.unexpected j.glimpse "u32")

/-- The members of an object. -/
def members : Decoder Members
  | .object ms => .ok ms
  | j => .error (.unexpected j.glimpse "a map")

/-- A list of values, each read by `d`. -/
def list (d : Decoder α) : Decoder (List α)
  | .list items => items.mapM d
  | j => .error (.unexpected j.glimpse "a sequence")

/-- Null for none, any other document as `d` reads it. -/
def option (d : Decoder α) : Decoder (Option α)
  | .null => .ok none
  | j => (d j).map some

/-- Reads by `d`, then applies a rule that may refuse the value. -/
def checked (d : Decoder α) (rule : α → Except String β) : Decoder β := fun j =>
  match d j with
  | .error e => .error e
  | .ok a => (rule a).mapError .refused

/-- A member of the closed set `known`, by its name. -/
def named (known : List (String × α)) (name : String) : Except DecodeError α :=
  match known.lookup name with
  | some a => .ok a
  | none => .error (.unknownVariant name (known.map Prod.fst))

/-- A member of a closed set: its name as a text, or as the only key of an object with a null
under it. -/
def oneOf (known : List (String × α)) : Decoder α
  | .text s => named known s
  | .object [(k, j)] =>
    match named known k, j with
    | .error e, _ => .error e
    | .ok a, .null => .ok a
    | .ok _, j => .error (.unexpected j.glimpse "unit")
  | .object _ => .error .notOneMember
  | j => .error (.unexpected j.glimpse "string or map")

end Decoder

end CredStore
