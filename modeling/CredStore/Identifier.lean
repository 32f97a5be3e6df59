import CredStore.Inspect
import CredStore.Json.Decode
import CredStore.Text.Percent

/-!
# Identifiers

Identifiers that the server assigns. A server may use any text, so identifiers are carried as they
come; `Identifier.parse?` accepts only the text of a UUID.
-/

namespace CredStore

/-- What an identifier identifies. -/
inductive IdKind where
  | credential
  | permission
  | certificate
  deriving DecidableEq

/-- The name of a kind of identifier where it is inspected. -/
def IdKind.name : IdKind → String
  | .credential => "CredentialId"
  | .permission => "PermissionId"
  | .certificate => "CertificateId"

/-- An identifier of one kind. -/
structure Identifier (kind : IdKind) where
  text : String
  deriving DecidableEq

/-- Identifies one version of a credential. -/
abbrev CredentialId := Identifier .credential

/-- Identifies a permission. -/
abbrev PermissionId := Identifier .permission

/-- Identifies a certificate with all its versions. -/
abbrev CertificateId := Identifier .certificate

/-! ## UUIDs -/

namespace Uuid

/-- Exactly `n` hexadecimal digits. -/
def isHex (n : Nat) (s : List Char) : Bool :=
  s.length == n && s.all fun c => (Text.hexValue? c).isSome

/-- Groups of 8, 4, 4, 4 and 12 hexadecimal digits with hyphens between them. -/
def isHyphenated (s : List Char) : Bool :=
  match s.splitOn '-' with
  | [a, b, c, d, e] => isHex 8 a && isHex 4 b && isHex 4 c && isHex 4 d && isHex 12 e
  | _ => false

/-- The part of `s` between braces. -/
def braced? (s : List Char) : Option (List Char) :=
  match s with
  | '\x7b' :: rest => if rest.getLast? = some '\x7d' then some rest.dropLast else none
  | _ => none

/-- What follows `urn:uuid:`, in letters of either case. -/
def urn? (s : List Char) : Option (List Char) :=
  if (s.take 9).map Char.toLower = "urn:uuid:".toList then some (s.drop 9) else none

/-- `s` is a UUID: 32 digits, or the hyphenated form, alone, between braces or as a URN. -/
def isUuid (s : List Char) : Bool :=
  isHex 32 s || isHyphenated s || (braced? s).any isHyphenated || (urn? s).any isHyphenated

end Uuid

namespace Identifier

variable {kind : IdKind}

/-- The identifier with this text, if it is a UUID. The text is kept as it is. -/
def parse? (s : String) : Option (Identifier kind) :=
  if Uuid.isUuid s.toList then some ⟨s⟩ else none

/-- Reads an identifier from a text; any text will do. -/
def decoder : Decoder (Identifier kind) := fun j =>
  (Decoder.text j).map Identifier.mk

def toJson (i : Identifier kind) : Json :=
  .text i.text

/-- An identifier shows its text. -/
def inspect (i : Identifier kind) : Inspect :=
  .wrap kind.name (.text i.text)

end Identifier

end CredStore
