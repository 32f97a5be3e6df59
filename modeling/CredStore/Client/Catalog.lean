import CredStore.Certificate
import CredStore.Client.Operation
import CredStore.Details
import CredStore.Envelope
import CredStore.Listing
import CredStore.Permission.Addressed
import CredStore.Permission.Basic

/-!
# The operations of the client

On credentials, on permissions, on certificates and on the server itself. The first version of the
permission service handles the permissions of one credential together, the second gives each
permission an identifier.
-/

namespace CredStore

/-- The release of the library. -/
def release : String :=
  "0.2.2"

namespace Client

/-! ## Credentials -/

namespace Credentials

variable {α : Type}

/-- Writes a new version of a credential. -/
def write [CredentialValue α] [Payload α] (e : Envelope α) : Operation (Details α) :=
  .reading "write" (.on .put .data [] (some e.document)) Details.ofDocument

/-- Has the server generate a credential. -/
def generate {β : Type} [GenerationParameters α β] [CredentialValue β] [Payload α]
    (e : Envelope α) : Operation (Details β) :=
  .reading "generate" (.on .post .data [] (some e.document)) Details.ofDocument

variable [CredentialValue α]

/-- Has the server generate a credential again. -/
def regenerate (name : Name) : Operation (Details α) :=
  .reading "regenerate" (.on .post .regenerate [] (some (Regenerate.mk name).toJson.sorted))
    Details.ofDocument

/-- Reads one version of a credential. -/
def getById (id : CredentialId) : Operation (Details α) :=
  .reading "get_by_id" (.on .get .dataById [id.text]) Details.ofDocument

/-- Reads the newest version of a credential. -/
def getByName (name : Name) : Operation (Details α) :=
  (Operation.decoding "get_by_name" (.on .get .dataCurrentByName [name.path])
    History.decoder).andThen fun h =>
      Operation.firstOf (.noVersions "get_by_name" name.path) h.versions

/-- Reads up to `versions` versions of a credential, newest first. -/
def history (name : Name) (versions : Nat) : Outcome (Operation (List (Details α))) :=
  if versions = 0 then refuse (.notPositive "versions")
  else
    .ok <| (Operation.decoding "get_by_name_with_history"
      (.on .get .dataVersionsByName [name.path, toString versions])
      History.decoder).andThen fun h => .ok h.versions

omit [CredentialValue α]

/-- Finds credentials by a part of their names. -/
def findByName (text : String) : Operation (List Summary) :=
  .decoding "find_by_name" (.on .get .dataNameLike [text]) Summary.listDecoder

/-- Finds credentials under a path. -/
def findByPath (path : String) : Operation (List Summary) :=
  .decoding "find_by_path" (.on .get .dataByPath [path]) Summary.listDecoder

/-- Lists all paths under which there are credentials. -/
def allPaths : Operation (List StorePath) :=
  .decoding "get_all_paths" (.on .get .dataPaths) StorePath.listDecoder

/-- Deletes all versions of a credential. -/
def deleteByName (name : Name) : Operation Unit :=
  .ignoring "delete_by_name" (.on .delete .dataByName [name.path])

end Credentials

/-! ## Permissions -/

namespace BatchPermissions

/-- Lists the permissions on a credential. -/
def get (name : Name) : Operation (List Permission) :=
  (Operation.decoding "get_permissions" (.on .get .permissionsV1ByName [name.path])
    PermissionBatch.decoder).andThen fun b => .ok b.permissions

/-- Adds permissions to a credential. -/
def add (name : Name) (permissions : List Permission) : Outcome (Operation Unit) :=
  if permissions = [] then refuse .noPermission
  else
    .ok (.ignoring "add_permissions"
      (.on .post .permissionsV1 [] (some (PermissionBatch.mk name permissions).toJson.sorted)))

/-- Takes all that an actor may do with a credential away from it. -/
def delete (name : Name) (actor : Actor) : Operation Unit :=
  .ignoring "delete_permission"
    (.on .delete .permissionsV1ByNameAndActor [name.path, actor.encode])

end BatchPermissions

namespace AddressedPermissions

/-- Reads a permission. -/
def get (uuid : PermissionId) : Operation AddressedPermission :=
  .decoding "get_permission" (.on .get .permissionsV2ById [uuid.text]) AddressedPermission.decoder

/-- Finds the permission of an actor on a path. -/
def find (path : String) (actor : Actor) : Operation AddressedPermission :=
  .decoding "get_permission_by_path_and_actor"
    (.on .get .permissionsV2ByPathAndActor [path, actor.encode]) AddressedPermission.decoder

/-- Adds a permission. -/
def add (p : AddressedPermission) : Operation AddressedPermission :=
  .decoding "add_permissions" (.on .post .permissionsV2 [] (some p.toJson.sorted))
    AddressedPermission.decoder

/-- Replaces a permission. -/
def update (uuid : PermissionId) (p : AddressedPermission) : Operation AddressedPermission :=
  .decoding "update_permission"
    (.on .put .permissionsV2ById [uuid.text] (some p.toJson.sorted)) AddressedPermission.decoder

/-- Deletes a permission; the result is what it was. -/
def delete (uuid : PermissionId) : Operation AddressedPermission :=
  .decoding "delete_permission" (.on .delete .permissionsV2ById [uuid.text])
    AddressedPermission.decoder

end AddressedPermissions

/-! ## Certificates -/

namespace Certificates

/-- Lists all certificates. -/
def all : Operation (List Certificate) :=
  .decoding "get_all" (.on .get .certificates) Certificate.listDecoder

/-- Reads the certificate with a name. -/
def byName (name : Name) : Operation Certificate :=
  (Operation.decoding "get_by_name" (.on .get .certificatesByName [name.path])
    Certificate.listDecoder).andThen fun cs =>
      Operation.firstOf (.noCertificate "get_by_name" name.path) cs

/-- Has the server generate a certificate again. -/
def regenerate (id : CertificateId) (transitional : Option Bool) :
    Operation (Details CertificateValue) :=
  .reading "regenerate"
    (.on .post .certificateRegenerate [id.text]
      (some (CertificateRegenerate.mk transitional).toJson.sorted)) Details.ofDocument

/-- Has the server generate all certificates of an authority again. -/
def bulkRegenerate (signedBy : Name) : Operation (List Name) :=
  .decoding "bulk_regenerate"
    (.on .post .bulkRegenerate [] (some (BulkRegenerate.mk signedBy).toJson.sorted))
    Regenerated.decoder

/-- Moves the transitional mark to a version, or takes it away. -/
def setTransitional (id : CertificateId) (version : Option CredentialId) :
    Operation (List CertificateVersion) :=
  .decoding "update_transitional_version"
    (.on .put .certificateTransitionalVersion [id.text]
      (some (TransitionalVersion.mk version).toJson.sorted))
    (Decoder.list CertificateVersion.decoder)

end Certificates

/-! ## The server -/

/-- Replaces the references in the bindings of services by the credentials that they refer to. -/
def interpolate (services : Services) : Operation Services :=
  .decoding "interpolate_service_data" (.on .post .interpolate [] (some services.toJson.sorted))
    Services.decoder

/-- Reads the version of the server. -/
def version : Operation ServerVersion :=
  .decoding "version" (.on .get .version) ServerVersion.decoder

end Client

end CredStore
