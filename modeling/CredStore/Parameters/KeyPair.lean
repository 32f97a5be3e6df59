import CredStore.Parameters.Basic
import CredStore.Value.KeyPair

/-!
# Parameters of key pairs

A key pair has a length; an SSH key pair may carry a comment. There is no rule to break.
-/

namespace CredStore

/-- How an RSA key pair is generated. -/
structure RsaParameters where
  keyLength : Option KeyLength := none
  deriving DecidableEq

namespace RsaParameters

def record : Record RsaParameters :=
  RsaParameters.mk <$> Record.optional "key_length" KeyLength.decoder

end RsaParameters

instance : GenerationParameters RsaParameters RsaValue where
  tag := .rsa
  decoder := RsaParameters.record.decoder "RsaParameters"
  toJson p := .object (Json.member? "key_length" KeyLength.toJson p.keyLength)
  validate _ := .ok ()
  inspect p := .record "RsaParameters" [("key_length", .option KeyLength.inspect p.keyLength)]

/-- How an SSH key pair is generated. -/
structure SshParameters where
  keyLength : Option KeyLength := none
  comment : Option String := none
  deriving DecidableEq

namespace SshParameters

def record : Record SshParameters :=
  SshParameters.mk <$> Record.optional "key_length" KeyLength.decoder
    <*> Record.optional "ssh_comment" Decoder.text

/-- Sets one field. -/
inductive Edit where
  | keyLength (l : KeyLength)
  | comment (s : String)

/-- The parameters after one edit; a field that was set before is replaced. -/
def edit (p : SshParameters) : Edit → SshParameters
  | .keyLength l => { p with keyLength := some l }
  | .comment s => { p with comment := some s }

end SshParameters

instance : GenerationParameters SshParameters SshValue where
  tag := .ssh
  decoder := SshParameters.record.decoder "SshParameters"
  toJson p := .object (Json.member? "key_length" KeyLength.toJson p.keyLength ++
    Json.member? "ssh_comment" .text p.comment)
  validate _ := .ok ()
  inspect p := .record "SshParameters"
    [("key_length", .option KeyLength.inspect p.keyLength),
      ("ssh_comment", .option .text p.comment)]

end CredStore
