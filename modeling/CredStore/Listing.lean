import CredStore.Error
import CredStore.Instant.Basic
import CredStore.Json.Record
import CredStore.Name.Basic

/-!
# Listings

What the server answers to searches, and other answers that are a single member around a list or a
text. A missing list is empty.
-/

namespace CredStore

/-- A member around a list of `α`, which may be missing. -/
def listing {α : Type} (record key : String) (d : Decoder α) : Decoder (List α) :=
  (Record.defaulted key [] (Decoder.list d)).decoder record

/-- The document of a listing. -/
def listingToJson {α : Type} (key : String) (f : α → Json) (xs : List α) : Json :=
  .object [(key, .list (xs.map f))]

/-! ## Summaries -/

/-- A credential that was found, and when its newest version was written. -/
structure Summary where
  name : Name
  createdAt : Option Instant
  deriving DecidableEq

namespace Summary

def decoder : Decoder Summary :=
  (Summary.mk <$> Record.required "name" Name.decoder
    <*> Record.optional "version_created_at" Instant.decoder).decoder "CredentialSummary"

def toJson (s : Summary) : Json :=
  .object ([("name", s.name.toJson)] ++
    Json.member? "version_created_at" Instant.toJson s.createdAt)

def listDecoder : Decoder (List Summary) :=
  listing "CredentialSummaryData" "credentials" decoder

def listToJson : List Summary → Json :=
  listingToJson "credentials" toJson

end Summary

/-! ## Paths -/

/-- A path under which there are credentials. -/
structure StorePath where
  path : String
  deriving DecidableEq

namespace StorePath

def decoder : Decoder StorePath :=
  (StorePath.mk <$> Record.required "path" Decoder.text).decoder "CredentialPath"

def toJson (p : StorePath) : Json :=
  .object [("path", .text p.path)]

def listDecoder : Decoder (List StorePath) :=
  listing "CredentialPathData" "paths" decoder

def listToJson : List StorePath → Json :=
  listingToJson "paths" toJson

end StorePath

/-! ## Names that were regenerated -/

namespace Regenerated

def decoder : Decoder (List Name) :=
  listing "BulkRegenerateResponse" "regenerated_credentials" Name.decoder

def toJson : List Name → Json :=
  listingToJson "regenerated_credentials" Name.toJson

end Regenerated

/-! ## The version of the server -/

/-- The version of the server. -/
structure ServerVersion where
  version : String
  deriving DecidableEq

namespace ServerVersion

def decoder : Decoder ServerVersion :=
  (ServerVersion.mk <$> Record.required "version" Decoder.text).decoder "VersionInfo"

def toJson (v : ServerVersion) : Json :=
  .object [("version", .text v.version)]

end ServerVersion

/-! ## Service bindings -/

/-- Bindings of services by their labels. -/
structure Services where
  members : Members
  deriving BEq

namespace Services

/-- No bindings. -/
def empty : Services :=
  ⟨[]⟩

/-- The bindings that a document holds, which must be an object. -/
def ofDocument (j : Json) : Outcome Services :=
  match j with
  | .object ms => .ok ⟨ms⟩
  | j => refuse (.servicesNotAnObject j.compact)

/-- Reads bindings as the answer of a server. -/
def decoder : Decoder Services := fun j =>
  (Decoder.members j).map Services.mk

/-- The bindings under a label. -/
def service? (s : Services) (label : String) : Option Json :=
  s.members.get? label

def toJson (s : Services) : Json :=
  .object s.members

end Services

end CredStore
