import CredStore.CredentialType
import CredStore.Json.Decode

/-!
# Errors

Every failure is a cause: an argument that was refused, a document that could not be mapped onto a
value, a failure of the transport, or a bad configuration. The wording of each cause is in its
`message`; `Error.message` adds the words that tell the kinds apart. A failure that a transport
reports in the name of another kind keeps the text it came with.
-/

namespace CredStore

/-- Why an argument is refused. -/
inductive Refusal where
  /-- A part of what is built was not set. -/
  | unset (what : String)
  /-- None of the parts was set of which one is needed. -/
  | noneSet (parts : List String)
  /-- A number is zero. -/
  | notPositive (what : String)
  | emptySegment
  | slashInSegment (segment : String)
  | malformedName (path : String)
  | emptyIdentity
  | noOperation
  | noPermission
  | permissionsWithoutValue
  | unknownWriteMode (found : String)
  | unsupportedKeyLength (bits : Nat)
  | everyClassExcluded
  | noSigner
  /-- A json credential is made from a document that is no object. -/
  | notAnObject (kind : String)
  | servicesNotAnObject (document : String)
  | unterminatedPlaceholder (template : String)
  | missingVariable (placeholder template : String)
  | tooManyVariables (template : String)
  | reported (text : String)

/-- Why a document of the server is refused. -/
inductive Mismatch where
  /-- It does not decode, in the given context. -/
  | undecodable (context : String) (cause : DecodeError)
  | wrongType (expected found : CredentialType)
  | unknownCredentialType (found : String)
  | unknownActorType (found : String)
  | actorWithoutType (found : String)
  | actorWithoutIdentity (found : String)
  | emptyBody (context : String)
  | noVersions (context name : String)
  | noCertificate (context name : String)
  | reported (text : String)

/-- Why a text is no URL. -/
inductive Url.Error where
  | emptyHost
  | invalidPort
  | invalidIpv4
  | invalidIpv6
  /-- The text has no scheme. -/
  | noScheme
  /-- The name of a host has no form in ASCII. -/
  | invalidName
  /-- The host of a URL with a scheme of its own holds a forbidden character. -/
  | forbiddenInHost
  deriving DecidableEq, Repr

/-- The wording of a cause. -/
def Url.Error.message : Url.Error → String
  | .emptyHost => "empty host"
  | .invalidPort => "invalid port number"
  | .invalidIpv4 => "invalid IPv4 address"
  | .invalidIpv6 => "invalid IPv6 address"
  | .noScheme => "relative URL without a base"
  | .invalidName => "invalid international domain name"
  | .forbiddenInHost => "invalid domain character"

/-- A field of the configuration that breaks its rule. -/
structure FieldFault where
  field : String
  rule : String
  value : String

/-- Why a configuration is refused. -/
inductive Misconfiguration where
  /-- The text does not describe a configuration. -/
  | unreadable
  /-- Fields break their rules; sorted by the name of the field. -/
  | invalid (faults : List FieldFault)
  /-- A request has no URL. -/
  | badEndpoint (text : String) (cause : Url.Error)
  | reported (text : String)

/-- A failure. -/
inductive Error where
  | invalidArgument (why : Refusal)
  | deserialization (why : Mismatch)
  | serialization (text : String)
  | transport (status : Option Nat) (text : String)
  | config (why : Misconfiguration)

namespace Refusal

/-- The wording of a cause. -/
def message : Refusal → String
  | .unset what => what ++ " must be set"
  | .noneSet parts => "at least one of " ++ ", ".intercalate parts ++ " must be set"
  | .notPositive what => what ++ " must be greater than 0"
  | .emptySegment => "credential name segment cannot be empty"
  | .slashInSegment segment => "credential name segment '" ++ segment ++ "' cannot contain '/'"
  | .malformedName path => "malformed credential name '" ++ path ++ "'"
  | .emptyIdentity => "actor identity cannot be empty"
  | .noOperation => "at least one operation must be set"
  | .noPermission => "at least one permission must be given"
  | .permissionsWithoutValue => "permissions can only be attached to value writes"
  | .unknownWriteMode found => "Unknown write mode: " ++ found
  | .unsupportedKeyLength bits =>
    "unsupported key length " ++ toString bits ++ ", expected one of 2048, 3072, 4096"
  | .everyClassExcluded => "password parameters exclude every character class"
  | .noSigner =>
    "one of certificate_authority_credential, self_sign, is_certificate_authority must be set"
  | .notAnObject kind => "json credential must be an object, got " ++ kind
  | .servicesNotAnObject document => "services data must be a JSON object, got " ++ document
  | .unterminatedPlaceholder template => "unterminated placeholder in " ++ template
  | .missingVariable placeholder template =>
    "missing value for " ++ placeholder ++ " in " ++ template
  | .tooManyVariables template => "too many values for " ++ template
  | .reported text => text

end Refusal

namespace Mismatch

/-- The wording of a cause. -/
def message : Mismatch → String
  | .undecodable context cause => context ++ ": " ++ cause.message
  | .wrongType expected found =>
    "Credential type mismatch: expected " ++ expected.text ++ ", found " ++ found.text
  | .unknownCredentialType found => "Unknown credential type: " ++ found
  | .unknownActorType found => "Unknown actor type: " ++ found
  | .actorWithoutType found => "malformed actor '" ++ found ++ "': missing type prefix"
  | .actorWithoutIdentity found => "malformed actor '" ++ found ++ "': empty identity"
  | .emptyBody context => context ++ ": empty response body"
  | .noVersions context name => context ++ ": no versions returned for " ++ name
  | .noCertificate context name => context ++ ": no certificate returned for " ++ name
  | .reported text => text

end Mismatch

/-- The wording of a broken rule. -/
def FieldFault.message (f : FieldFault) : String :=
  f.field ++ ": Validation error: " ++ f.rule ++
    " [\x7b\"value\": String(" ++ Text.quoted f.value ++ ")\x7d]"

namespace Misconfiguration

/-- The wording of a cause. -/
def message : Misconfiguration → String
  | .unreadable => "Invalid configuration"
  | .invalid faults => "\n".intercalate (faults.map FieldFault.message)
  | .badEndpoint text cause => "Invalid endpoint " ++ text ++ ": " ++ cause.message
  | .reported text => text

end Misconfiguration

namespace Error

/-- The wording of a failure, with its kind. -/
def message : Error → String
  | .invalidArgument why => "Invalid argument: " ++ why.message
  | .deserialization why => "Deserialization failed: " ++ why.message
  | .serialization text => "Serialization error: " ++ Text.Place.settle text
  | .transport none text => "Transport error: " ++ text
  | .transport (some status) text =>
    "Transport error (status: " ++ toString status ++ "): " ++ text
  | .config why => "Configuration error: " ++ why.message

/-- Local input was refused. -/
def isInvalidArgument : Error → Bool
  | .invalidArgument _ => true
  | _ => false

/-- A document of the server was refused. -/
def isDeserialization : Error → Bool
  | .deserialization _ => true
  | _ => false

end Error

/-- A computation that may fail. -/
abbrev Outcome := Except Error

/-- Refuses an argument. -/
def refuse {α : Type} (why : Refusal) : Outcome α :=
  .error (.invalidArgument why)

/-- Refuses a document of the server. -/
def mismatch {α : Type} (why : Mismatch) : Outcome α :=
  .error (.deserialization why)

/-- A decoder that applies a rule of the library to what `d` reads. -/
def Decoder.ruled {α β : Type} (d : Decoder α) (rule : α → Outcome β) : Decoder β :=
  d.checked fun a => (rule a).mapError Error.message

end CredStore
