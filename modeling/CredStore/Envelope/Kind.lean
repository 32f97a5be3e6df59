import CredStore.Envelope
import CredStore.Value.Kind

/-!
# Kinds of payloads

A payload is a value of some kind, or the parameters that a value of one of five types is generated
from.
-/

namespace CredStore

/-- What is generated from parameters. -/
inductive ParameterKind where
  | password
  | user
  | rsa
  | ssh
  | certificate
  deriving DecidableEq

/-- The parameters of a kind. -/
abbrev ParameterKind.Carrier : ParameterKind → Type
  | .password => PasswordParameters
  | .user => UserParameters
  | .rsa => RsaParameters
  | .ssh => SshParameters
  | .certificate => CertificateParameters

instance : (k : ParameterKind) → Payload k.Carrier
  | .password => inferInstanceAs (Payload PasswordParameters)
  | .user => inferInstanceAs (Payload UserParameters)
  | .rsa => inferInstanceAs (Payload RsaParameters)
  | .ssh => inferInstanceAs (Payload SshParameters)
  | .certificate => inferInstanceAs (Payload CertificateParameters)

/-- What kind of payload an envelope carries. -/
inductive PayloadKind where
  | value (k : ValueKind)
  | parameters (k : ParameterKind)
  deriving DecidableEq

/-- The payloads of a kind. -/
abbrev PayloadKind.Carrier : PayloadKind → Type
  | .value k => k.Carrier
  | .parameters k => k.Carrier

instance : (k : PayloadKind) → Payload k.Carrier
  | .value k => .ofValue k.Carrier
  | .parameters k => inferInstanceAs (Payload k.Carrier)

/-- The key of the payloads of a kind. -/
def PayloadKind.field : PayloadKind → PayloadField
  | .value _ => .value
  | .parameters _ => .parameters

namespace PayloadKind

theorem field_eq (k : PayloadKind) : Payload.field k.Carrier = k.field := by
  rcases k with k | k
  · rfl
  · cases k <;> rfl

end PayloadKind

end CredStore
