import CredStore.Distinct
import CredStore.Parameters.Basic
import CredStore.Parameters.Usage
import CredStore.Value.Certificate

/-!
# Parameters of certificates

A certificate needs a subject, that is some field of a distinguished name, and a signer: the name
of an authority's credential, or itself, or the right to sign others. Edits keep the lists free of
repetition; reading keeps them as they come.
-/

namespace CredStore

/-- How a certificate is generated. -/
structure CertificateParameters where
  keyLength : Option KeyLength := none
  commonName : Option String := none
  alternativeNames : Option (List String) := none
  organization : Option String := none
  organizationUnit : Option String := none
  locality : Option String := none
  state : Option String := none
  country : Option String := none
  /-- How long the certificate is valid, in days. -/
  duration : Option UInt32 := none
  /-- The name of the credential of the authority that signs. -/
  authority : Option String := none
  isAuthority : Option Bool := none
  selfSign : Option Bool := none
  keyUsage : Option (List KeyUsage) := none
  extendedKeyUsage : Option (List ExtendedKeyUsage) := none
  deriving DecidableEq

namespace CertificateParameters

/-! ## Documents -/

def record : Record CertificateParameters :=
  CertificateParameters.mk <$> Record.optional "key_length" KeyLength.decoder
    <*> Record.optional "common_name" Decoder.text
    <*> Record.optional "alternative_names" (Decoder.list Decoder.text)
    <*> Record.optional "organization" Decoder.text
    <*> Record.optional "organization_unit" Decoder.text
    <*> Record.optional "locality" Decoder.text
    <*> Record.optional "state" Decoder.text
    <*> Record.optional "country" Decoder.text
    <*> Record.optional "duration" Decoder.word
    <*> Record.optional "ca" Decoder.text
    <*> Record.optional "is_ca" Decoder.bool
    <*> Record.optional "self_sign" Decoder.bool
    <*> Record.optional "key_usage" (Decoder.list KeyUsage.decoder)
    <*> Record.optional "extended_key_usage" (Decoder.list ExtendedKeyUsage.decoder)

def toJson (p : CertificateParameters) : Json :=
  .object (Json.member? "key_length" KeyLength.toJson p.keyLength ++
    Json.member? "common_name" .text p.commonName ++
    Json.member? "alternative_names" .texts p.alternativeNames ++
    Json.member? "organization" .text p.organization ++
    Json.member? "organization_unit" .text p.organizationUnit ++
    Json.member? "locality" .text p.locality ++
    Json.member? "state" .text p.state ++
    Json.member? "country" .text p.country ++
    Json.member? "duration" .word p.duration ++
    Json.member? "ca" .text p.authority ++
    Json.member? "is_ca" .bool p.isAuthority ++
    Json.member? "self_sign" .bool p.selfSign ++
    Json.member? "key_usage" (fun us => .list (us.map KeyUsage.toJson)) p.keyUsage ++
    Json.member? "extended_key_usage" (fun us => .list (us.map ExtendedKeyUsage.toJson))
      p.extendedKeyUsage)

def inspect (p : CertificateParameters) : Inspect :=
  .record "CertificateParameters"
    [("key_length", .option KeyLength.inspect p.keyLength),
      ("common_name", .option .text p.commonName),
      ("alternative_names", .option (fun ns => .list (ns.map .text)) p.alternativeNames),
      ("organization", .option .text p.organization),
      ("organization_unit", .option .text p.organizationUnit),
      ("locality", .option .text p.locality),
      ("state", .option .text p.state),
      ("country", .option .text p.country),
      ("duration", .option .word p.duration),
      ("certificate_authority_credential", .option .text p.authority),
      ("is_ca", .option .bool p.isAuthority),
      ("self_sign", .option .bool p.selfSign),
      ("key_usage", .option (fun us => .list (us.map KeyUsage.inspect)) p.keyUsage),
      ("extended_key_usage",
        .option (fun us => .list (us.map ExtendedKeyUsage.inspect)) p.extendedKeyUsage)]

/-! ## The rule -/

/-- The fields of a distinguished name, with their keys. -/
def subject (p : CertificateParameters) : List (String × Option String) :=
  [("common_name", p.commonName), ("organization", p.organization),
    ("organization_unit", p.organizationUnit), ("locality", p.locality), ("state", p.state),
    ("country", p.country)]

/-- Some field of a distinguished name is set. -/
def hasSubject (p : CertificateParameters) : Bool :=
  p.subject.any fun f => f.2.isSome

/-- It is said who signs. -/
def hasSigner (p : CertificateParameters) : Bool :=
  p.authority.isSome || p.selfSign == some true || p.isAuthority == some true

/-- There is a subject, there is a signer, and a duration is not zero; asked for in this order. -/
def validate (p : CertificateParameters) : Outcome Unit :=
  if p.hasSubject = false then refuse (.noneSet (p.subject.map Prod.fst))
  else if p.hasSigner = false then refuse .noSigner
  else positiveIfSet "certificate duration" p.duration

/-! ## Building -/

/-- Sets one field or adds to one list. -/
inductive Edit where
  | keyLength (l : KeyLength)
  | commonName (s : String)
  | alternativeName (s : String)
  | alternativeNames (ss : List String)
  | organization (s : String)
  | organizationUnit (s : String)
  | locality (s : String)
  | state (s : String)
  | country (s : String)
  | duration (n : UInt32)
  | authority (s : String)
  | isAuthority (b : Bool)
  | selfSign (b : Bool)
  | keyUsage (u : KeyUsage)
  | keyUsages (us : List KeyUsage)
  | extendedKeyUsage (u : ExtendedKeyUsage)
  | extendedKeyUsages (us : List ExtendedKeyUsage)

/-- An optional list with more members; without any more it stays as it is, unset if it was. -/
def grow {α : Type} [DecidableEq α] (xs : Option (List α)) (ys : List α) : Option (List α) :=
  ys.foldl (fun xs y => some (Distinct.add (xs.getD []) y)) xs

/-- The parameters after one edit; a single field that was set before is replaced. -/
def edit (p : CertificateParameters) : Edit → CertificateParameters
  | .keyLength l => { p with keyLength := some l }
  | .commonName s => { p with commonName := some s }
  | .alternativeName s => { p with alternativeNames := grow p.alternativeNames [s] }
  | .alternativeNames ss => { p with alternativeNames := grow p.alternativeNames ss }
  | .organization s => { p with organization := some s }
  | .organizationUnit s => { p with organizationUnit := some s }
  | .locality s => { p with locality := some s }
  | .state s => { p with state := some s }
  | .country s => { p with country := some s }
  | .duration n => { p with duration := some n }
  | .authority s => { p with authority := some s }
  | .isAuthority b => { p with isAuthority := some b }
  | .selfSign b => { p with selfSign := some b }
  | .keyUsage u => { p with keyUsage := grow p.keyUsage [u] }
  | .keyUsages us => { p with keyUsage := grow p.keyUsage us }
  | .extendedKeyUsage u => { p with extendedKeyUsage := grow p.extendedKeyUsage [u] }
  | .extendedKeyUsages us => { p with extendedKeyUsage := grow p.extendedKeyUsage us }

/-- The parameters, if they satisfy their rule. -/
def build (p : CertificateParameters) : Outcome CertificateParameters :=
  p.validate.map fun _ => p

end CertificateParameters

instance : GenerationParameters CertificateParameters CertificateValue where
  tag := .certificate
  decoder := CertificateParameters.record.decoder "CertificateParameters"
  toJson := CertificateParameters.toJson
  validate := CertificateParameters.validate
  inspect := CertificateParameters.inspect

end CredStore
