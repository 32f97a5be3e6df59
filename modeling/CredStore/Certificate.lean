import CredStore.Identifier
import CredStore.Instant.Basic
import CredStore.Listing
import CredStore.Name.Basic

/-!
# Certificates on the server

A certificate has one identifier for all its versions. An authority is replaced in three steps: a
new version is generated as the transitional one, clients come to trust both, and then the mark
moves.
-/

namespace CredStore

/-- One version of a certificate. -/
structure CertificateVersion where
  id : CredentialId
  expiry : Option Instant
  transitional : Bool
  isAuthority : Bool
  selfSigned : Bool
  deriving DecidableEq

namespace CertificateVersion

def decoder : Decoder CertificateVersion :=
  (CertificateVersion.mk <$> Record.required "id" Identifier.decoder
    <*> Record.optional "expiry_date" Instant.decoder
    <*> Record.defaulted "transitional" false Decoder.bool
    <*> Record.defaulted "certificate_authority" false Decoder.bool
    <*> Record.defaulted "self_signed" false Decoder.bool).decoder "CertificateVersion"

def toJson (v : CertificateVersion) : Json :=
  .object ([("id", v.id.toJson)] ++ Json.member? "expiry_date" Instant.toJson v.expiry ++
    [("transitional", .bool v.transitional), ("certificate_authority", .bool v.isAuthority),
      ("self_signed", .bool v.selfSigned)])

end CertificateVersion

/-- A certificate with who signed it, whom it signs, and its versions. -/
structure Certificate where
  id : CertificateId
  name : Name
  signer : Option String
  signs : List String
  versions : List CertificateVersion
  deriving DecidableEq

namespace Certificate

def decoder : Decoder Certificate :=
  (Certificate.mk <$> Record.required "id" Identifier.decoder
    <*> Record.required "name" Name.decoder
    <*> Record.optional "signed_by" Decoder.text
    <*> Record.defaulted "signs" [] (Decoder.list Decoder.text)
    <*> Record.defaulted "versions" [] (Decoder.list CertificateVersion.decoder)).decoder
    "CertificateSummary"

def toJson (c : Certificate) : Json :=
  .object ([("id", c.id.toJson), ("name", c.name.toJson)] ++
    Json.member? "signed_by" .text c.signer ++
    [("signs", .texts c.signs), ("versions", .list (c.versions.map CertificateVersion.toJson))])

/-- The name of the authority that signed the certificate. An empty one means that it signed
itself. -/
def signedBy? (c : Certificate) : Option String :=
  c.signer.filter (· ≠ "")

/-- The first version that is marked as transitional. -/
def transitional? (c : Certificate) : Option CertificateVersion :=
  c.versions.find? CertificateVersion.transitional

def listDecoder : Decoder (List Certificate) :=
  listing "CertificateSummaryData" "certificates" decoder

def listToJson : List Certificate → Json :=
  listingToJson "certificates" toJson

end Certificate

end CredStore
