import CredStore.Value.Any

/-!
# Kinds of values

Whoever asks for a credential says of which kind its value is to be: of one of the seven types, or
of whatever type the tag names.
-/

namespace CredStore

/-- The values of a type. -/
abbrev CredentialType.Value : CredentialType → Type
  | .value => PlainValue
  | .password => PasswordValue
  | .user => UserValue
  | .json => JsonValue
  | .certificate => CertificateValue
  | .rsa => RsaValue
  | .ssh => SshValue

instance : (t : CredentialType) → CredentialValue t.Value
  | .value => inferInstanceAs (CredentialValue PlainValue)
  | .password => inferInstanceAs (CredentialValue PasswordValue)
  | .user => inferInstanceAs (CredentialValue UserValue)
  | .json => inferInstanceAs (CredentialValue JsonValue)
  | .certificate => inferInstanceAs (CredentialValue CertificateValue)
  | .rsa => inferInstanceAs (CredentialValue RsaValue)
  | .ssh => inferInstanceAs (CredentialValue SshValue)

/-- A value of a type as a value of any type. -/
def AnyValue.of : (t : CredentialType) → t.Value → AnyValue
  | .value => .value
  | .password => .password
  | .user => .user
  | .json => .json
  | .certificate => .certificate
  | .rsa => .rsa
  | .ssh => .ssh

/-- What kind of value is asked for. -/
inductive ValueKind where
  | typed (t : CredentialType)
  | any
  deriving DecidableEq

/-- The values of a kind. -/
abbrev ValueKind.Carrier : ValueKind → Type
  | .typed t => t.Value
  | .any => AnyValue

instance : (k : ValueKind) → CredentialValue k.Carrier
  | .typed t => inferInstanceAs (CredentialValue t.Value)
  | .any => inferInstanceAs (CredentialValue AnyValue)

open CredentialValue (ofWire)

namespace AnyValue

theorem tag_of (t : CredentialType) (v : t.Value) : (of t v).tag = t := by
  cases t <;> rfl

/-- A value of any type is a value of the type that its tag names. -/
theorem exists_of (a : AnyValue) : ∃ v : a.tag.Value, a = of a.tag v := by
  cases a <;> exact ⟨_, rfl⟩

theorem of_injective {t : CredentialType} {v w : t.Value} (h : of t v = of t w) : v = w := by
  cases t <;> cases h <;> rfl

/-- The tag chooses the type that reads the value. -/
theorem read_eq (t : CredentialType) (j : Json) :
    read t j = (ofWire t j : Outcome t.Value).map (of t) := by
  cases t <;> rfl

end AnyValue

namespace CredentialType

/-- No type reads a value that stands next to the tag of another. -/
theorem ofWire_of_ne {t u : CredentialType} (h : t ≠ u) (j : Json) :
    (ofWire u j : Outcome t.Value) = mismatch (.wrongType t u) := by
  cases t <;> exact if_neg h

end CredentialType

end CredStore
