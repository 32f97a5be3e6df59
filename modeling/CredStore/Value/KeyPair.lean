import CredStore.Value.Basic

/-!
# Key pairs

A public and a private key, at least one of them. RSA and SSH credentials are key pairs; to an SSH
key pair the server adds the fingerprint of the public key, which is read and never written.
-/

namespace CredStore

/-- A public and a private key. -/
structure KeyPair where
  publicKey : Option String
  privateKey : Option Secret
  someSet : publicKey.isSome ∨ privateKey.isSome
  deriving DecidableEq

namespace KeyPair

/-- A key pair of which some parts are still to be set. -/
structure Draft where
  publicKey : Option String := none
  privateKey : Option Secret := none

/-- Sets one part of a draft. -/
inductive Edit where
  | publicKey (s : String)
  | privateKey (s : Secret)

namespace Draft

/-- The draft after one edit; a part that was set before is replaced. -/
def edit (d : Draft) : Edit → Draft
  | .publicKey s => { d with publicKey := some s }
  | .privateKey s => { d with privateKey := some s }

/-- The key pair, if one of its keys is set. -/
def build (d : Draft) : Outcome KeyPair :=
  if h : d.publicKey.isSome ∨ d.privateKey.isSome then .ok ⟨d.publicKey, d.privateKey, h⟩
  else refuse (.noneSet ["public_key", "private_key"])

end Draft

/-- A key pair as a document gives it. -/
structure Raw where
  publicKey : Option String
  privateKey : Option Secret
  fingerprint : Option String

/-- The fields of a key pair, the same for both types. -/
def record : Record Raw :=
  Raw.mk <$> Record.optional "public_key" Decoder.text
    <*> Record.optional "private_key" Secret.decoder
    <*> Record.optional "public_key_fingerprint" Decoder.text

/-- The keys of a key pair that was read. -/
def ofRaw (raw : Raw) : Outcome KeyPair :=
  Draft.build ⟨raw.publicKey, raw.privateKey⟩

def toJson (k : KeyPair) : Json :=
  .object (Json.member? "public_key" .text k.publicKey ++
    Json.member? "private_key" Secret.toJson k.privateKey)

/-- What a key pair shows of its keys. -/
def inspectKeys (k : KeyPair) : List (String × Inspect) :=
  [("public_key", .option .text k.publicKey), ("private_key", .option Secret.inspect k.privateKey)]

end KeyPair

/-- An RSA key pair. -/
structure RsaValue where
  keys : KeyPair
  deriving DecidableEq

/-- The RSA key pair, if one of its keys is set. -/
def RsaValue.build (d : KeyPair.Draft) : Outcome RsaValue :=
  d.build.map RsaValue.mk

/-- Reads an RSA key pair; a fingerprint must be readable and is dropped. -/
def RsaValue.decoder : Decoder RsaValue :=
  (KeyPair.record.decoder "RawKeyPair").ruled fun raw => (KeyPair.ofRaw raw).map RsaValue.mk

instance : CredentialValue RsaValue where
  tag _ := .rsa
  ofWire := ofTagged .rsa "RsaCredential" RsaValue.decoder
  isDeserialization := isDeserialization_of_ofTagged
  toJson v := v.keys.toJson
  inspect v := .record "RsaCredential" v.keys.inspectKeys

/-- An SSH key pair. -/
structure SshValue where
  keys : KeyPair
  fingerprint : Option String
  deriving DecidableEq

/-- The SSH key pair, if one of its keys is set; only a server states the fingerprint. -/
def SshValue.build (d : KeyPair.Draft) : Outcome SshValue :=
  d.build.map fun keys => ⟨keys, none⟩

/-- Reads an SSH key pair. -/
def SshValue.decoder : Decoder SshValue :=
  (KeyPair.record.decoder "RawKeyPair").ruled fun raw =>
    (KeyPair.ofRaw raw).map fun keys => ⟨keys, raw.fingerprint⟩

instance : CredentialValue SshValue where
  tag _ := .ssh
  ofWire := ofTagged .ssh "SshCredential" SshValue.decoder
  isDeserialization := isDeserialization_of_ofTagged
  toJson v := v.keys.toJson
  inspect v := .record "SshCredential"
    (v.keys.inspectKeys ++ [("public_key_fingerprint", .option .text v.fingerprint)])

end CredStore
