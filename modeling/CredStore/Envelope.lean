import CredStore.Identifier
import CredStore.Log
import CredStore.Name.ServiceInstance
import CredStore.Parameters.Certificate
import CredStore.Parameters.KeyPair
import CredStore.Parameters.Password
import CredStore.Permission.Basic
import CredStore.Value.Any
import CredStore.WriteMode

/-!
# Envelopes

An envelope carries one payload to the server: a value to be written, or parameters to generate one
from. Around it stand the name, the type, the write policy and, for a value, permissions. What was
not set is left out of the document.
-/

namespace CredStore

/-- The key of a payload in an envelope. -/
inductive PayloadField where
  | value
  | parameters
  deriving DecidableEq

/-- The key as text. -/
def PayloadField.text : PayloadField → String
  | .value => "value"
  | .parameters => "parameters"

/-- A type of payloads. -/
class Payload (α : Type) where
  /-- The key of the payload. -/
  field : PayloadField
  /-- The tag that stands next to the payload. -/
  tag : α → CredentialType
  /-- The document of the payload. -/
  toJson : α → Json
  /-- The rule that an envelope checks again. -/
  validate : α → Outcome Unit
  /-- What the payload shows of itself. -/
  inspect : α → Inspect

/-- A value is a payload without a rule: it was checked when it was made. -/
@[reducible]
def Payload.ofValue (α : Type) [CredentialValue α] : Payload α where
  field := .value
  tag := CredentialValue.tag
  toJson := CredentialValue.toJson
  validate _ := .ok ()
  inspect := CredentialValue.inspect

/-- Parameters are a payload with their own rule. -/
@[reducible]
def Payload.ofParameters (α : Type) {β : Type} [GenerationParameters α β] : Payload α where
  field := .parameters
  tag _ := GenerationParameters.tag α
  toJson := GenerationParameters.toJson
  validate := GenerationParameters.validate
  inspect := GenerationParameters.inspect

instance : Payload PlainValue := .ofValue _
instance : Payload PasswordValue := .ofValue _
instance : Payload UserValue := .ofValue _
instance : Payload JsonValue := .ofValue _
instance : Payload CertificateValue := .ofValue _
instance : Payload RsaValue := .ofValue _
instance : Payload SshValue := .ofValue _
instance : Payload AnyValue := .ofValue _
instance : Payload PasswordParameters := .ofParameters _
instance : Payload UserParameters := .ofParameters _
instance : Payload RsaParameters := .ofParameters _
instance : Payload SshParameters := .ofParameters _
instance : Payload CertificateParameters := .ofParameters _

/-- A payload with what stands around it. -/
structure Envelope (α : Type) where
  name : Name
  payload : α
  policy : WritePolicy
  permissions : List Permission

namespace Envelope

variable {α : Type} [Payload α]

/-- The document of an envelope, members in the order in which they are written. -/
def toJson (e : Envelope α) : Json :=
  .object (
    [("name", e.name.toJson), ("type", (Payload.tag e.payload).toJson)] ++
    Json.member? "mode" WriteMode.toJson e.policy.modeField ++
    Json.member? "overwrite" .bool e.policy.flagField ++
    [((Payload.field α).text, Payload.toJson e.payload)] ++
    Json.member? "permissions" (fun ps => .list (ps.map Permission.toJson))
      (if e.permissions.isEmpty then none else some e.permissions))

/-- The document of an envelope as it is sent. -/
def document (e : Envelope α) : Json :=
  e.toJson.sorted

def inspect (e : Envelope α) : Inspect :=
  .record "CredentialRequest"
    [("name", e.name.inspect), ("payload", Payload.inspect e.payload),
      ("policy", e.policy.inspect),
      ("permissions", .list (e.permissions.map Permission.inspect))]

/-! ## Building -/

/-- An envelope of which some parts are still to be set. -/
@[ext]
structure Draft (α : Type) where
  name : Option Name := none
  payload : Option α := none
  mode : Option WriteMode := none
  overwrite : Option Bool := none
  permissions : List Permission := []

/-- Sets or adds one part of a draft. -/
inductive Edit (α : Type) where
  | name (n : Name)
  | payload (p : α)
  | mode (m : WriteMode)
  | overwrite (b : Bool)
  | permission (p : Permission)
  | permissions (ps : List Permission)

namespace Draft

/-- The draft after one edit; a single part that was set before is replaced. -/
def edit {α : Type} (d : Draft α) : Edit α → Draft α
  | .name n => { d with name := some n }
  | .payload p => { d with payload := some p }
  | .mode m => { d with mode := some m }
  | .overwrite b => { d with overwrite := some b }
  | .permission p => { d with permissions := d.permissions ++ [p] }
  | .permissions ps => { d with permissions := d.permissions ++ ps }

/-- The draft after all edits. -/
def ofEdits {α : Type} (es : List (Edit α)) : Draft α :=
  es.foldl edit {}

/-- Makes the envelope. The name is asked for first, then the payload, then its rule; permissions go
with a value only. What was reported before a failure stays in the log. -/
def finish (d : Draft α) : ExceptT Error Logged (Envelope α) := do
  let some name := d.name | refuse (.unset "credential name")
  let some payload := d.payload | refuse (.unset ("credential " ++ (Payload.field α).text))
  Payload.validate payload
  if Payload.field α = .parameters ∧ d.permissions ≠ [] then refuse .permissionsWithoutValue
  let policy ← WritePolicy.reconcile d.mode d.overwrite
  Logged.report
    { level := .debug
      label := "Built credential request"
      fields := [("name", name.path), ("credential_type", (Payload.tag payload).text)] }
  return ⟨name, payload, policy, d.permissions⟩

/-- The envelope. -/
def build (d : Draft α) : Outcome (Envelope α) :=
  d.finish.run.value

/-- What is reported while the envelope is made. -/
def buildLog (d : Draft α) : Log :=
  d.finish.run.log

end Draft

end Envelope

/-! ## Small requests -/

/-- Asks for a credential to be generated again, as it was generated before. -/
structure Regenerate where
  name : Name

/-- The document of the request. -/
def Regenerate.toJson (r : Regenerate) : Json :=
  .object [("name", r.name.toJson)]

/-- The request shows the name. -/
def Regenerate.inspect (r : Regenerate) : Inspect :=
  .record "RegenerateRequest" [("name", r.name.inspect)]

/-- Asks for all certificates of an authority to be generated again. -/
structure BulkRegenerate where
  signedBy : Name

/-- The document of the request. -/
def BulkRegenerate.toJson (r : BulkRegenerate) : Json :=
  .object [("signed_by", r.signedBy.toJson)]

/-- The request shows the authority. -/
def BulkRegenerate.inspect (r : BulkRegenerate) : Inspect :=
  .record "BulkRegenerateRequest" [("signed_by", r.signedBy.inspect)]

/-- Asks for one certificate to be generated again, as a transitional version or not. -/
structure CertificateRegenerate where
  transitional : Option Bool

/-- The document of the request. -/
def CertificateRegenerate.toJson (r : CertificateRegenerate) : Json :=
  .object (Json.member? "set_as_transitional" .bool r.transitional)

/-- The request shows what was set. -/
def CertificateRegenerate.inspect (r : CertificateRegenerate) : Inspect :=
  .record "CertificateRegenerateRequest" [("set_as_transitional", .option .bool r.transitional)]

/-- Makes one version of a certificate the transitional one, or none of them. -/
structure TransitionalVersion where
  version : Option CredentialId

/-- The document of the request; null asks for no version. -/
def TransitionalVersion.toJson (r : TransitionalVersion) : Json :=
  .object [("version", r.version.elim .null Identifier.toJson)]

/-- The request shows the version. -/
def TransitionalVersion.inspect (r : TransitionalVersion) : Inspect :=
  .record "TransitionalVersionRequest" [("version", .option Identifier.inspect r.version)]

end CredStore
