import CredStore.Json.Decode

/-!
# Records in documents

A record is described once, field by field in the order of their declaration, and the description
gives both ways of reading it:

* from an object: the members are checked in the order of their keys and the first bad one is
  reported; keys that the record does not declare are ignored; then the first required field that
  is missing is reported;
* from a list: the items are the fields in the order of their declaration.

A required field must be there. An optional field may be null, and missing from an object; a list
must give it. A defaulted field may be missing from both, but not null.
-/

namespace CredStore

/-- Where the fields of a record are looked up. -/
inductive Source where
  | members (ms : Members)
  /-- The items, with the name of the record and the number of its fields. -/
  | items (js : List Json) (record : String) (arity : Nat)

namespace Source

/-- The document of the field at the given position and with the given key. -/
def field? : Source → Nat → String → Option Json
  | .members ms, _, key => ms.get? key
  | .items js _ _, i, _ => js[i]?

/-- A required field is not there. -/
def missing : Source → Nat → String → DecodeError
  | .members _, _, key => .missingField key
  | .items _ record arity, i, _ => .tooShort i record arity

end Source

/-- How a record is read. -/
structure Record (α : Type) where
  /-- The number of its fields. -/
  arity : Nat
  /-- Whether the member of an object can be read, if the record declares its key. -/
  check : String → Json → Except DecodeError Unit
  /-- The record from its fields, the first of them at the given position. -/
  build : Source → Nat → Except DecodeError α

namespace Record

variable {α β : Type}

/-- The record of a single field: `absent` is its value when it is not there. -/
def field (key : String) (d : Decoder α) (absent : Source → Nat → Except DecodeError α) :
    Record α where
  arity := 1
  check k j := if k = key then (d j).map fun _ => () else .ok ()
  build s i :=
    match s.field? i key with
    | some j => d j
    | none => absent s i

/-- A field that must be there. -/
def required (key : String) (d : Decoder α) : Record α :=
  field key d fun s i => .error (s.missing i key)

/-- A field that an object may leave out or set to null. -/
def optional (key : String) (d : Decoder α) : Record (Option α) :=
  field key (Decoder.option d) fun s i =>
    match s with
    | .members _ => .ok none
    | .items _ _ _ => .error (s.missing i key)

/-- A field with a value of its own when it is left out. -/
def defaulted (key : String) (value : α) (d : Decoder α) : Record α :=
  field key d fun _ _ => .ok value

/-- A record without fields. -/
protected def pure (a : α) : Record α where
  arity := 0
  check _ _ := .ok ()
  build _ _ := .ok a

/-- The fields of `f` and then those of `x`. -/
protected def seq (f : Record (α → β)) (x : Record α) : Record β where
  arity := f.arity + x.arity
  check k j := (f.check k j).bind fun _ => x.check k j
  build s i := (f.build s i).bind fun g => (x.build s (i + f.arity)).map g

instance : Applicative Record where
  pure := Record.pure
  seq f x := Record.seq f (x ())

/-- Checks the members in order. -/
def checkAll (r : Record α) : Members → Except DecodeError Unit
  | [] => .ok ()
  | (k, j) :: rest => (r.check k j).bind fun _ => checkAll r rest

/-- Reads the record called `name`. -/
def decoder (name : String) (r : Record α) : Decoder α
  | .object ms => (r.checkAll ms).bind fun _ => r.build (.members ms) 0
  | .list js =>
    (r.build (.items js name r.arity) 0).bind fun a =>
      if r.arity < js.length then .error (.tooLong js.length) else .ok a
  | j => .error (.unexpected j.glimpse ("struct " ++ name))

end Record

end CredStore
