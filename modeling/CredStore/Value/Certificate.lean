import CredStore.Value.Basic

/-!
# Certificates

A certificate, the certificate of the authority that signed it, and its private key: at least one
of the three. The name of the authority's credential may be given besides.
-/

namespace CredStore

/-- A certificate with what belongs to it. -/
structure CertificateValue where
  certificate : Option String
  authority : Option String
  authorityName : Option String
  privateKey : Option Secret
  someSet : certificate.isSome ∨ authority.isSome ∨ privateKey.isSome
  deriving DecidableEq

namespace CertificateValue

/-- A certificate of which some parts are still to be set. -/
structure Draft where
  certificate : Option String := none
  authority : Option String := none
  authorityName : Option String := none
  privateKey : Option Secret := none

/-- Sets one part of a draft. -/
inductive Edit where
  | certificate (s : String)
  | authority (s : String)
  | authorityName (s : String)
  | privateKey (s : Secret)

namespace Draft

/-- The draft after one edit; a part that was set before is replaced. -/
def edit (d : Draft) : Edit → Draft
  | .certificate s => { d with certificate := some s }
  | .authority s => { d with authority := some s }
  | .authorityName s => { d with authorityName := some s }
  | .privateKey s => { d with privateKey := some s }

/-- The certificate, if one of the three parts is set. -/
def build (d : Draft) : Outcome CertificateValue :=
  if h : d.certificate.isSome ∨ d.authority.isSome ∨ d.privateKey.isSome then
    .ok ⟨d.certificate, d.authority, d.authorityName, d.privateKey, h⟩
  else refuse (.noneSet ["certificate", "certificate_authority", "private_key"])

def record : Record Draft :=
  Draft.mk <$> Record.optional "certificate" Decoder.text
    <*> Record.optional "ca" Decoder.text
    <*> Record.optional "ca_name" Decoder.text
    <*> Record.optional "private_key" Secret.decoder

end Draft

def decoder : Decoder CertificateValue :=
  (Draft.record.decoder "RawCertificateCredential").ruled Draft.build

end CertificateValue

instance : CredentialValue CertificateValue where
  tag _ := .certificate
  ofWire := ofTagged .certificate "CertificateCredential" CertificateValue.decoder
  isDeserialization := isDeserialization_of_ofTagged
  toJson v := .object (Json.member? "certificate" .text v.certificate ++
    Json.member? "ca" .text v.authority ++
    Json.member? "ca_name" .text v.authorityName ++
    Json.member? "private_key" Secret.toJson v.privateKey)
  inspect v := .record "CertificateCredential"
    [("certificate", .option .text v.certificate), ("ca", .option .text v.authority),
      ("ca_name", .option .text v.authorityName),
      ("private_key", .option Secret.inspect v.privateKey)]

end CredStore
