/-!
# Routes

The places on the server that requests go to. A template holds a placeholder between braces for
each variable of the request.
-/

namespace CredStore

/-- A place on the server. -/
inductive Route where
  | data
  | dataById
  | dataByName
  | dataCurrentByName
  | dataVersionsByName
  | dataNameLike
  | dataByPath
  | dataPaths
  | regenerate
  | bulkRegenerate
  | interpolate
  | permissionsV1
  | permissionsV1ByName
  | permissionsV1ByNameAndActor
  | permissionsV2
  | permissionsV2ById
  | permissionsV2ByPathAndActor
  | certificates
  | certificatesByName
  | certificateRegenerate
  | certificateTransitionalVersion
  | info
  | version
  deriving DecidableEq, Repr

namespace Route

/-- All routes. -/
def all : List Route :=
  [.data, .dataById, .dataByName, .dataCurrentByName, .dataVersionsByName, .dataNameLike,
    .dataByPath, .dataPaths, .regenerate, .bulkRegenerate, .interpolate, .permissionsV1,
    .permissionsV1ByName, .permissionsV1ByNameAndActor, .permissionsV2, .permissionsV2ById,
    .permissionsV2ByPathAndActor, .certificates, .certificatesByName, .certificateRegenerate,
    .certificateTransitionalVersion, .info, .version]

/-- The name of a route. -/
def name : Route → String
  | .data => "DATA"
  | .dataById => "DATA_BY_ID"
  | .dataByName => "DATA_BY_NAME"
  | .dataCurrentByName => "DATA_CURRENT_BY_NAME"
  | .dataVersionsByName => "DATA_VERSIONS_BY_NAME"
  | .dataNameLike => "DATA_NAME_LIKE"
  | .dataByPath => "DATA_BY_PATH"
  | .dataPaths => "DATA_PATHS"
  | .regenerate => "REGENERATE"
  | .bulkRegenerate => "BULK_REGENERATE"
  | .interpolate => "INTERPOLATE"
  | .permissionsV1 => "PERMISSIONS_V1"
  | .permissionsV1ByName => "PERMISSIONS_V1_BY_NAME"
  | .permissionsV1ByNameAndActor => "PERMISSIONS_V1_BY_NAME_AND_ACTOR"
  | .permissionsV2 => "PERMISSIONS_V2"
  | .permissionsV2ById => "PERMISSIONS_V2_BY_ID"
  | .permissionsV2ByPathAndActor => "PERMISSIONS_V2_BY_PATH_AND_ACTOR"
  | .certificates => "CERTIFICATES"
  | .certificatesByName => "CERTIFICATES_BY_NAME"
  | .certificateRegenerate => "CERTIFICATE_REGENERATE"
  | .certificateTransitionalVersion => "CERTIFICATE_TRANSITIONAL_VERSION"
  | .info => "INFO"
  | .version => "VERSION"

/-- The path of a route, with its placeholders. -/
def template : Route → String
  | .data => "/api/v1/data"
  | .dataById => "/api/v1/data/{id}"
  | .dataByName => "/api/v1/data?name={name}"
  | .dataCurrentByName => "/api/v1/data?name={name}&current=true"
  | .dataVersionsByName => "/api/v1/data?name={name}&versions={versions}"
  | .dataNameLike => "/api/v1/data?name-like={name}"
  | .dataByPath => "/api/v1/data?path={path}"
  | .dataPaths => "/api/v1/data?paths=true"
  | .regenerate => "/api/v1/regenerate"
  | .bulkRegenerate => "/api/v1/bulk-regenerate"
  | .interpolate => "/api/v1/interpolate"
  | .permissionsV1 => "/api/v1/permissions"
  | .permissionsV1ByName => "/api/v1/permissions?credential_name={name}"
  | .permissionsV1ByNameAndActor => "/api/v1/permissions?credential_name={name}&actor={actor}"
  | .permissionsV2 => "/api/v2/permissions"
  | .permissionsV2ById => "/api/v2/permissions/{uuid}"
  | .permissionsV2ByPathAndActor => "/api/v2/permissions?path={path}&actor={actor}"
  | .certificates => "/api/v1/certificates"
  | .certificatesByName => "/api/v1/certificates?name={name}"
  | .certificateRegenerate => "/api/v1/certificates/{id}/regenerate"
  | .certificateTransitionalVersion => "/api/v1/certificates/{id}/update_transitional_version"
  | .info => "/info"
  | .version => "/version"

/-- The route with the given name. -/
def ofName? (s : String) : Option Route :=
  all.find? fun r => r.name == s

end Route

end CredStore
