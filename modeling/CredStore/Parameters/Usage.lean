import CredStore.Error
import CredStore.Inspect

/-!
# Usages of certificates

The closed sets of what the key of a certificate may be used for.
-/

namespace CredStore

/-- What a key may be used for. -/
inductive KeyUsage where
  | digitalSignature
  | nonRepudiation
  | keyEncipherment
  | dataEncipherment
  | keyAgreement
  | keyCertSign
  | crlSign
  | encipherOnly
  | decipherOnly
  deriving DecidableEq, Repr

namespace KeyUsage

/-- All usages in the order of declaration. -/
def all : List KeyUsage :=
  [.digitalSignature, .nonRepudiation, .keyEncipherment, .dataEncipherment, .keyAgreement,
    .keyCertSign, .crlSign, .encipherOnly, .decipherOnly]

/-- The word in documents. -/
def text : KeyUsage → String
  | .digitalSignature => "digital_signature"
  | .nonRepudiation => "non_repudiation"
  | .keyEncipherment => "key_encipherment"
  | .dataEncipherment => "data_encipherment"
  | .keyAgreement => "key_agreement"
  | .keyCertSign => "key_cert_sign"
  | .crlSign => "crl_sign"
  | .encipherOnly => "encipher_only"
  | .decipherOnly => "decipher_only"

/-- The name of the usage where it is inspected. -/
def name : KeyUsage → String
  | .digitalSignature => "DigitalSignature"
  | .nonRepudiation => "NonRepudiation"
  | .keyEncipherment => "KeyEncipherment"
  | .dataEncipherment => "DataEncipherment"
  | .keyAgreement => "KeyAgreement"
  | .keyCertSign => "KeyCertSign"
  | .crlSign => "CrlSign"
  | .encipherOnly => "EncipherOnly"
  | .decipherOnly => "DecipherOnly"

/-- Reads a usage from its word in a document. -/
def decoder : Decoder KeyUsage :=
  Decoder.oneOf (all.map fun u => (u.text, u))

def toJson (u : KeyUsage) : Json :=
  .text u.text

def inspect (u : KeyUsage) : Inspect :=
  .atom u.name

end KeyUsage

/-- Whom or what a certificate may be used to prove. -/
inductive ExtendedKeyUsage where
  | serverAuth
  | clientAuth
  | codeSigning
  | emailProtection
  | timestamping
  deriving DecidableEq, Repr

namespace ExtendedKeyUsage

/-- All usages in the order of declaration. -/
def all : List ExtendedKeyUsage :=
  [.serverAuth, .clientAuth, .codeSigning, .emailProtection, .timestamping]

/-- The word in documents. -/
def text : ExtendedKeyUsage → String
  | .serverAuth => "server_auth"
  | .clientAuth => "client_auth"
  | .codeSigning => "code_signing"
  | .emailProtection => "email_protection"
  | .timestamping => "timestamping"

/-- The name of the usage where it is inspected. -/
def name : ExtendedKeyUsage → String
  | .serverAuth => "ServerAuth"
  | .clientAuth => "ClientAuth"
  | .codeSigning => "CodeSigning"
  | .emailProtection => "EmailProtection"
  | .timestamping => "Timestamping"

/-- Reads a usage from its word in a document. -/
def decoder : Decoder ExtendedKeyUsage :=
  Decoder.oneOf (all.map fun u => (u.text, u))

def toJson (u : ExtendedKeyUsage) : Json :=
  .text u.text

def inspect (u : ExtendedKeyUsage) : Inspect :=
  .atom u.name

end ExtendedKeyUsage

end CredStore
