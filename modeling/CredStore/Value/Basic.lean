import CredStore.Error
import CredStore.Inspect
import CredStore.Json.Decode
import CredStore.Json.Record

/-!
# Values of credentials

The tag of a value is not part of the value's document: both stand next to each other in an
envelope. So a value is read with the tag in hand, and a type of values says which tags it accepts.

A secret is text that may be written into a document and must not be shown to a person: neither the
inspection form nor the display text of a secret depends on what it holds. A plain value and a
password are each one secret text. A user is a password with an optional user name; the server adds
a hash of the password, which is read and never written.
-/

namespace CredStore

/-! ## Tags -/

namespace CredentialType

/-- The type with the given tag. -/
def parse (s : String) : Outcome CredentialType :=
  match ofText? s with
  | some t => .ok t
  | none => mismatch (.unknownCredentialType s)

/-- Reads a type from its tag in a document. -/
def decoder : Decoder CredentialType :=
  Decoder.oneOf tags

def toJson (t : CredentialType) : Json :=
  .text t.text

def inspect (t : CredentialType) : Inspect :=
  .atom t.name

end CredentialType

/-! ## Secrets -/

/-- Secret text. -/
structure Secret where
  exposed : String
  deriving DecidableEq

namespace Secret

/-- The number of bytes. -/
def size (s : Secret) : Nat :=
  s.exposed.utf8ByteSize

/-- The secret is the empty text. -/
def isEmpty (s : Secret) : Bool :=
  s.exposed.isEmpty

/-- What is displayed in place of a secret. -/
def display (_ : Secret) : String :=
  "[REDACTED]"

/-- What is inspected in place of a secret. -/
def inspect (_ : Secret) : Inspect :=
  .atom "SecretString([REDACTED])"

/-- Reads a secret from a text. -/
def decoder : Decoder Secret := fun j =>
  (Decoder.text j).map Secret.mk

def toJson (s : Secret) : Json :=
  .text s.exposed

end Secret

/-! ## Types of values -/

/-- A type of values that can stand in the envelope of a credential. -/
class CredentialValue (α : Type) where
  /-- The tag that stands next to a value. -/
  tag : α → CredentialType
  /-- Reads a value, given the tag that stands next to it. -/
  ofWire : CredentialType → Json → Outcome α
  /-- The document of a value. What only a server may state is left out. -/
  toJson : α → Json
  /-- What a value shows of itself. -/
  inspect : α → Inspect
  /-- Whatever is no value is refused as a document of the server. -/
  isDeserialization : ∀ {t j e}, ofWire t j = .error e → e.isDeserialization = true

/-- Reads a value of the type called `name` by `d`, if the tag is the expected one. -/
def ofTagged {α : Type} (expected : CredentialType) (name : String) (d : Decoder α)
    (found : CredentialType) (j : Json) : Outcome α :=
  if expected = found then
    (d j).mapError fun e => .deserialization (.undecodable ("invalid " ++ name) e)
  else mismatch (.wrongType expected found)

theorem isDeserialization_of_ofTagged {α : Type} {expected : CredentialType} {name : String}
    {d : Decoder α} {found : CredentialType} {j : Json} {e : Error}
    (h : ofTagged expected name d found j = .error e) : e.isDeserialization = true := by
  unfold ofTagged at h
  split at h
  · cases hd : d j with
    | ok a => rw [hd] at h; cases h
    | error why => rw [hd] at h; cases h; rfl
  · cases h; rfl

/-! ## Values that are a text -/

/-- A secret text without further meaning. -/
structure PlainValue where
  value : Secret
  deriving DecidableEq

instance : CredentialValue PlainValue where
  tag _ := .value
  ofWire := ofTagged .value "ValueCredential" fun j => (Secret.decoder j).map PlainValue.mk
  isDeserialization := isDeserialization_of_ofTagged
  toJson v := v.value.toJson
  inspect v := .wrap "ValueCredential" v.value.inspect

/-- A password. -/
structure PasswordValue where
  password : Secret
  deriving DecidableEq

instance : CredentialValue PasswordValue where
  tag _ := .password
  ofWire := ofTagged .password "PasswordCredential" fun j => (Secret.decoder j).map PasswordValue.mk
  isDeserialization := isDeserialization_of_ofTagged
  toJson v := v.password.toJson
  inspect v := .wrap "PasswordCredential" v.password.inspect

/-! ## Users -/

/-- A user name and a password. -/
structure UserValue where
  username : Option String
  password : Secret
  passwordHash : Option String
  deriving DecidableEq

namespace UserValue

/-- A user that the server has not seen. -/
def make (username : Option String) (password : Secret) : UserValue :=
  ⟨username, password, none⟩

def record : Record UserValue :=
  UserValue.mk <$> Record.optional "username" Decoder.text
    <*> Record.required "password" Secret.decoder
    <*> Record.optional "password_hash" Decoder.text

end UserValue

instance : CredentialValue UserValue where
  tag _ := .user
  ofWire := ofTagged .user "UserCredential" (UserValue.record.decoder "UserCredential")
  isDeserialization := isDeserialization_of_ofTagged
  toJson v := .object (Json.member? "username" .text v.username ++
    [("password", v.password.toJson)])
  inspect v := .record "UserCredential"
    [("username", .option .text v.username), ("password", v.password.inspect),
      ("password_hash", .option .text v.passwordHash)]

end CredStore
