import CredStore.Client.Catalog

/-!
# Calls and sessions

A call is one of the operations of the client together with its arguments. Running a call whose
arguments are refused sends nothing; every other call runs its operation. A session is calls one
after another, whatever their results, on the same exchange.
-/

namespace CredStore.Client

/-- An operation with its arguments. The index is the type of the result. -/
inductive Call : Type → Type 1 where
  | write {α : Type} [CredentialValue α] [Payload α] (e : Envelope α) : Call (Details α)
  | generate {α β : Type} [GenerationParameters α β] [CredentialValue β] [Payload α]
      (e : Envelope α) : Call (Details β)
  | regenerate {α : Type} [CredentialValue α] (name : Name) : Call (Details α)
  | getById {α : Type} [CredentialValue α] (id : CredentialId) : Call (Details α)
  | getByName {α : Type} [CredentialValue α] (name : Name) : Call (Details α)
  | history {α : Type} [CredentialValue α] (name : Name) (versions : Nat) :
      Call (List (Details α))
  | findByName (text : String) : Call (List Summary)
  | findByPath (path : String) : Call (List Summary)
  | allPaths : Call (List StorePath)
  | deleteByName (name : Name) : Call Unit
  | batchPermissions (name : Name) : Call (List Permission)
  | addBatch (name : Name) (permissions : List Permission) : Call Unit
  | deleteFromBatch (name : Name) (actor : Actor) : Call Unit
  | permission (uuid : PermissionId) : Call AddressedPermission
  | findPermission (path : String) (actor : Actor) : Call AddressedPermission
  | addPermission (p : AddressedPermission) : Call AddressedPermission
  | updatePermission (uuid : PermissionId) (p : AddressedPermission) : Call AddressedPermission
  | deletePermission (uuid : PermissionId) : Call AddressedPermission
  | certificates : Call (List Certificate)
  | certificateByName (name : Name) : Call Certificate
  | regenerateCertificate (id : CertificateId) (transitional : Option Bool) :
      Call (Details CertificateValue)
  | regenerateSigned (signedBy : Name) : Call (List Name)
  | setTransitional (id : CertificateId) (mark : Option CredentialId) :
      Call (List CertificateVersion)
  | interpolate (services : Services) : Call Services
  | version : Call ServerVersion

namespace Call

/-- The operation of a call. Only a history of no versions and an empty batch of permissions are
refused. -/
def operation : {β : Type} → Call β → Outcome (Operation β)
  | _, @write _ _ _ e => .ok (Credentials.write e)
  | _, @generate _ _ _ _ _ e => .ok (Credentials.generate e)
  | _, @regenerate _ _ name => .ok (Credentials.regenerate name)
  | _, @getById _ _ id => .ok (Credentials.getById id)
  | _, @getByName _ _ name => .ok (Credentials.getByName name)
  | _, @history _ _ name versions => Credentials.history name versions
  | _, .findByName text => .ok (Credentials.findByName text)
  | _, .findByPath path => .ok (Credentials.findByPath path)
  | _, .allPaths => .ok Credentials.allPaths
  | _, .deleteByName name => .ok (Credentials.deleteByName name)
  | _, .batchPermissions name => .ok (BatchPermissions.get name)
  | _, .addBatch name permissions => BatchPermissions.add name permissions
  | _, .deleteFromBatch name actor => .ok (BatchPermissions.delete name actor)
  | _, .permission uuid => .ok (AddressedPermissions.get uuid)
  | _, .findPermission path actor => .ok (AddressedPermissions.find path actor)
  | _, .addPermission p => .ok (AddressedPermissions.add p)
  | _, .updatePermission uuid p => .ok (AddressedPermissions.update uuid p)
  | _, .deletePermission uuid => .ok (AddressedPermissions.delete uuid)
  | _, .certificates => .ok Certificates.all
  | _, .certificateByName name => .ok (Certificates.byName name)
  | _, .regenerateCertificate id transitional => .ok (Certificates.regenerate id transitional)
  | _, .regenerateSigned signedBy => .ok (Certificates.bulkRegenerate signedBy)
  | _, .setTransitional id mark => .ok (Certificates.setTransitional id mark)
  | _, .interpolate services => .ok (Client.interpolate services)
  | _, .version => .ok Client.version

/-- Runs a call: its result, and the exchange after it. -/
def run {β : Type} (c : Call β) (x : Exchange) : Outcome β × Exchange :=
  match c.operation with
  | .error e => (.error e, x)
  | .ok op => op.run x

end Call

/-! ## Sessions -/

/-- A call with the type of its result. -/
structure AnyCall where
  {Result : Type}
  call : Call Result

/-- A call and what came of it. -/
structure Reply extends AnyCall where
  outcome : Outcome Result

namespace Call

/-- The request that a call sends, unless its arguments are refused. -/
def request? {β : Type} (c : Call β) : Option Request :=
  match c.operation with
  | .ok op => some op.request
  | .error _ => none

end Call

namespace AnyCall

/-- Runs a call: what came of it, and the exchange after it. -/
def run (c : AnyCall) (x : Exchange) : Reply × Exchange :=
  ({ c with outcome := (c.call.run x).1 }, (c.call.run x).2)

/-- Runs calls in order: a reply to each, and the exchange after all of them. -/
def runAll : List AnyCall → Exchange → List Reply × Exchange
  | [], x => ([], x)
  | c :: cs, x =>
    let (r, x) := c.run x
    let (rs, x) := runAll cs x
    (r :: rs, x)

/-- The requests that calls send. -/
def requests (cs : List AnyCall) : List Request :=
  cs.filterMap fun c => c.call.request?

end AnyCall

end CredStore.Client
