/-!
# Types of credentials

The closed set of tags that stand next to a value or to generation parameters in a document.
-/

namespace CredStore

/-- The type of a credential. -/
inductive CredentialType where
  | value
  | password
  | user
  | json
  | certificate
  | rsa
  | ssh
  deriving DecidableEq, Repr, Inhabited

namespace CredentialType

/-- All types in the order of declaration. -/
def all : List CredentialType :=
  [.value, .password, .user, .json, .certificate, .rsa, .ssh]

/-- The tag in documents. -/
def text : CredentialType → String
  | .value => "value"
  | .password => "password"
  | .user => "user"
  | .json => "json"
  | .certificate => "certificate"
  | .rsa => "rsa"
  | .ssh => "ssh"

/-- The name of the type where a value is inspected. -/
def name : CredentialType → String
  | .value => "Value"
  | .password => "Password"
  | .user => "User"
  | .json => "Json"
  | .certificate => "Certificate"
  | .rsa => "Rsa"
  | .ssh => "Ssh"

/-- The types by their tags. -/
def tags : List (String × CredentialType) :=
  all.map fun t => (t.text, t)

/-- The type with the given tag. -/
def ofText? (s : String) : Option CredentialType :=
  tags.lookup s

end CredentialType

end CredStore
