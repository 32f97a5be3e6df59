import CredStore.Error
import CredStore.Log
import CredStore.Request.Basic
import CredStore.Toml.Reader
import CredStore.Url.Reader

/-!
# Configuration

Where the server is: the URL of the server, and a path that is put between this URL and the path of
every request when the server stands behind a proxy. The text of a request's URL is the URL of the
server, this path and the path of the request in one line, the first two without slashes at their
ends; it is read as a URL once more. How the host of a URL is put into ASCII is given from outside.
-/

namespace CredStore

/-- Where the server is. -/
structure Config where
  url : String
  mount : String := ""
  deriving DecidableEq

namespace Config

variable (toAscii : Url.DomainToAscii)

/-! ## Rules -/

/-- The text is a URL of the web with a host. -/
def isServerUrl (s : String) : Bool :=
  match Url.parse toAscii s with
  | .ok u => (u.scheme == "http".toList || u.scheme == "https".toList) && u.host.isSome
  | .error _ => false

/-- The text is empty, or begins with a slash and has no query and no fragment. -/
def isMount (s : String) : Bool :=
  match s.toList with
  | [] => true
  | c :: rest => c == '/' && !rest.any (fun c => c == '?' || c == '#')

/-- The fields that break their rules, sorted by their names. -/
def faults (c : Config) : List FieldFault :=
  (if isMount c.mount then []
    else [⟨"api_path_prefix", "invalid_api_path_prefix", c.mount⟩]) ++
  (if isServerUrl toAscii c.url then [] else [⟨"url", "invalid_server_url", c.url⟩])

/-- Both fields keep their rules. -/
def validate (c : Config) : Outcome Unit :=
  if (c.faults toAscii).isEmpty then .ok () else .error (.config (.invalid (c.faults toAscii)))

/-! ## Reading -/

/-- A configuration from the entries of a document. -/
def ofEntries? (entries : List (String × Toml.Node)) : Option Config :=
  match entries.lookup "url", entries.lookup "api_path_prefix" with
  | some (.text url), none => some { url }
  | some (.text url), some (.text mount) => some { url, mount }
  | _, _ => none

/-- A configuration from a TOML document; keys that it does not know are ignored. -/
def read? (source : String) : Option Config :=
  match Toml.read? source with
  | some (.table _ _ entries) => ofEntries? entries
  | _ => none

/-- Reads a configuration and checks its rules. A text that is none is refused as `unreadable`, in one
wording of this library's own: readers of TOML tell the place and the cause. -/
def ofToml (source : String) : Outcome Config :=
  match read? source with
  | none => .error (.config .unreadable)
  | some c => (c.validate toAscii).map fun _ => c

/-! ## Use -/

/-- The text without slashes at its end. -/
def trimSlashes (s : String) : String :=
  String.ofList (s.toList.reverse.dropWhile (· = '/')).reverse

/-- The text of the URL that a path of a request gives. -/
def endpointText (c : Config) (path : String) : String :=
  trimSlashes c.url ++ trimSlashes c.mount ++ path

/-- The URL that a request goes to. -/
def endpoint (c : Config) (r : Request) : Outcome Url :=
  r.path.bind fun path =>
    (Url.parse toAscii (c.endpointText path)).mapError fun e =>
      .config (.badEndpoint (c.endpointText path) e)

/-- What is reported of a configuration. -/
def log (c : Config) : Log :=
  [{ level := .info
     label := "CredHub client configuration"
     fields := [("url", c.url), ("api_path_prefix", c.mount)] }]

end Config

end CredStore
