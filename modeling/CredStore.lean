import CredStore.Client.Call
import CredStore.Config
import CredStore.Json.Reader
import CredStore.Proofs.Client.Transcript
import CredStore.Proofs.Envelope.Echo
import CredStore.Proofs.Client.Arguments
import CredStore.Client.Catalog
import CredStore.Proofs.Url.Authority
import CredStore.Proofs.Url.Layout
import CredStore.Proofs.Config.Endpoint
import CredStore.Proofs.Config.Identifiers
import CredStore.Envelope.Kind
import CredStore.Proofs.Json.NullFree
import CredStore.Proofs.Envelope.Shape
import CredStore.Proofs.Client.Log
import CredStore.Proofs.Value.Shown
import CredStore.Proofs.Actor.Wire
import CredStore.Proofs.Json.Rewrite
import CredStore.Proofs.Permission.Document
import CredStore.Proofs.Client.Responses
import CredStore.Proofs.Parameters.Written
import CredStore.Proofs.Envelope.Generate
import CredStore.Proofs.Parameters.Usages
import CredStore.Proofs.Value.Refused
import CredStore.Proofs.Edits
import CredStore.Proofs.Permission.Build
import CredStore.Proofs.Request.Scan
import CredStore.Proofs.Json.Fields
import CredStore.Proofs.Value.Grammar
import CredStore.Proofs.Value.Build
import CredStore.Proofs.Client.Bulk
import CredStore.Proofs.Name.Child
import CredStore.Proofs.Parameters.Edited
import CredStore.Proofs.Client.Insertions
import CredStore.Proofs.Name.ServiceInstance
import CredStore.Proofs.Envelope.Build
import CredStore.Proofs.Client.Bodies
