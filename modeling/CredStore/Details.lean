import CredStore.Identifier
import CredStore.Instant.Basic
import CredStore.Name.Basic
import CredStore.Value.Any

/-!
# Details of credentials

One version of a credential as the server returns it. The tag and the value stand next to each
other, so the envelope is read first and then the value, with the tag in hand.
-/

namespace CredStore

/-- One version of a credential. -/
structure Details (α : Type) where
  id : Option CredentialId
  name : Name
  tag : CredentialType
  value : α
  createdAt : Option Instant
  /-- Only reported for certificates. -/
  transitional : Option Bool
  deriving BEq

namespace Details

/-- The fields of the envelope, with the document of the value. -/
def record : Record (Details Json) :=
  Details.mk <$> Record.optional "id" Identifier.decoder
    <*> Record.required "name" Name.decoder
    <*> Record.required "type" CredentialType.decoder
    <*> Record.required "value" Decoder.json
    <*> Record.optional "version_created_at" Instant.decoder
    <*> Record.optional "transitional" Decoder.bool

/-- Reads the envelope, and leaves the document of the value as it is. -/
def envelope : Decoder (Details Json) :=
  record.decoder "RawCredentialDetails"

/-- The same details around another value. -/
def map {α β : Type} (f : α → β) (d : Details α) : Details β :=
  { d with value := f d.value }

variable {α : Type} [CredentialValue α]

/-- Reads the details from a document. -/
def ofDocument (j : Json) : Outcome (Details α) :=
  match envelope j with
  | .error e => mismatch (.undecodable "invalid credential document" e)
  | .ok raw => (CredentialValue.ofWire raw.tag raw.value).map fun v => { raw with value := v }

/-- Reads the details as part of a larger document. -/
def decoder : Decoder (Details α) :=
  Decoder.json.ruled ofDocument

def toJson (d : Details α) : Json :=
  .object (
    Json.member? "id" Identifier.toJson d.id ++
    [("name", d.name.toJson), ("type", d.tag.toJson), ("value", CredentialValue.toJson d.value)] ++
    Json.member? "version_created_at" Instant.toJson d.createdAt ++
    Json.member? "transitional" .bool d.transitional)

def inspect (d : Details α) : Inspect :=
  .record "CredentialDetails"
    [("id", .option Identifier.inspect d.id), ("name", d.name.inspect),
      ("credential_type", d.tag.inspect), ("value", CredentialValue.inspect d.value),
      ("version_created_at", .option Instant.inspect d.createdAt),
      ("transitional", .option .bool d.transitional)]

end Details

/-- All versions of a credential, newest first. -/
structure History (α : Type) where
  versions : List (Details α)
  deriving BEq

namespace History

variable {α : Type} [CredentialValue α]

def decoder : Decoder (History α) :=
  (History.mk <$> Record.required "data" (Decoder.list Details.decoder)).decoder
    "CredentialDetailsData"

def toJson (h : History α) : Json :=
  .object [("data", .list (h.versions.map Details.toJson))]

end History

end CredStore
