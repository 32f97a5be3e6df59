import CredStore.Value.Basic
import CredStore.Value.Certificate
import CredStore.Value.Json
import CredStore.Value.KeyPair

/-!
# Values of any type

A value whose type is known only when its tag has been read. Its document is that of the value it
holds, without the type.
-/

namespace CredStore

/-- A value of any of the seven types. -/
inductive AnyValue where
  | value (v : PlainValue)
  | password (v : PasswordValue)
  | user (v : UserValue)
  | json (v : JsonValue)
  | certificate (v : CertificateValue)
  | rsa (v : RsaValue)
  | ssh (v : SshValue)
  deriving BEq

namespace AnyValue

open CredentialValue (ofWire)

/-- The type of the value. -/
def tag : AnyValue → CredentialType
  | .value _ => .value
  | .password _ => .password
  | .user _ => .user
  | .json _ => .json
  | .certificate _ => .certificate
  | .rsa _ => .rsa
  | .ssh _ => .ssh

/-- Reads a value of the type that the tag names. -/
def read (t : CredentialType) (j : Json) : Outcome AnyValue :=
  match t with
  | .value => (ofWire t j).map AnyValue.value
  | .password => (ofWire t j).map AnyValue.password
  | .user => (ofWire t j).map AnyValue.user
  | .json => (ofWire t j).map AnyValue.json
  | .certificate => (ofWire t j).map AnyValue.certificate
  | .rsa => (ofWire t j).map AnyValue.rsa
  | .ssh => (ofWire t j).map AnyValue.ssh

def toJson : AnyValue → Json
  | .value v => CredentialValue.toJson v
  | .password v => CredentialValue.toJson v
  | .user v => CredentialValue.toJson v
  | .json v => CredentialValue.toJson v
  | .certificate v => CredentialValue.toJson v
  | .rsa v => CredentialValue.toJson v
  | .ssh v => CredentialValue.toJson v

/-- What the value shows of itself. -/
def inner : AnyValue → Inspect
  | .value v => CredentialValue.inspect v
  | .password v => CredentialValue.inspect v
  | .user v => CredentialValue.inspect v
  | .json v => CredentialValue.inspect v
  | .certificate v => CredentialValue.inspect v
  | .rsa v => CredentialValue.inspect v
  | .ssh v => CredentialValue.inspect v

theorem isDeserialization_of_read {t : CredentialType} {j : Json} {e : Error}
    (h : read t j = .error e) : e.isDeserialization = true := by
  have key : ∀ {α : Type} [CredentialValue α] (f : α → AnyValue),
      (ofWire t j).map f = .error e → e.isDeserialization = true := by
    intro α _ f h
    cases hw : (ofWire t j : Outcome α) with
    | ok v => rw [hw] at h; cases h
    | error why =>
      rw [hw] at h
      cases h
      exact CredentialValue.isDeserialization hw
  cases t <;> exact key _ h

end AnyValue

instance : CredentialValue AnyValue where
  tag := AnyValue.tag
  ofWire := AnyValue.read
  isDeserialization := AnyValue.isDeserialization_of_read
  toJson := AnyValue.toJson
  inspect v := .wrap v.tag.name v.inner

end CredStore
