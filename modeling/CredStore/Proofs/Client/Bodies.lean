import CredStore.Proofs.Client.Answers
import CredStore.Proofs.Envelope.Shape

/-!
# What the bodies of calls carry

A call that changes something on the server, or has the server look something up in a document, says
in its body what its path does not say (`Call.body`). Bodies are written in the order of their keys,
whatever the order of the fields of a request (`body_of_request`).
-/

namespace CredStore

namespace AddressedPermission

/-- The members for what an actor may do on a path. -/
def granted (p : AddressedPermission) : Members :=
  p.permission.granted ++ ("path", .text p.path) ::
    Json.member? "uuid" (fun uuid => .text uuid.text) p.uuid

/-- Identifier and path are written behind the actor and the operations. -/
theorem sorted_toJson (p : AddressedPermission) : p.toJson.sorted = .object p.granted := by
  have hjson : p.toJson = .object (Json.member? "uuid" (fun uuid => .text uuid.text) p.uuid ++
      ("path", .text p.path) :: p.permission.granted) := by
    unfold toJson Permission.granted
    rw [Access.toJson_eq_word]
    rfl
  have hfixed : Json.sortedMembers (Json.member? "uuid" (fun uuid => .text uuid.text) p.uuid ++
      ("path", .text p.path) :: p.permission.granted) =
        Json.member? "uuid" (fun uuid => .text uuid.text) p.uuid ++
          ("path", .text p.path) :: p.permission.granted := by
    rw [Members.sortedMembers_append, Json.sortedMembers, p.permission.sortedMembers_granted]
    cases p.uuid <;> rfl
  have hactor : "actor" < "path" := by decide
  have hoperations : ¬ "operations" < "actor" ∧ "operations" ≠ "actor" ∧ "operations" < "path" := by
    decide
  have hpath : "path" < "uuid" := by decide
  rw [hjson, Json.sorted, hfixed]
  unfold granted Permission.granted
  cases p.uuid <;>
    simp only [Json.member?, Members.ofList, List.nil_append, List.cons_append, List.foldl_cons,
      List.foldl_nil, Members.insert, hactor, hoperations, hpath, if_true, if_false]

end AddressedPermission

/-- A batch is written as the name of the credential and what each actor may do with it. -/
theorem PermissionBatch.sorted_toJson (b : PermissionBatch) : b.toJson.sorted =
    .object [("credential_name", .text b.name.path),
      ("permissions", .list (b.permissions.map fun p => .object p.granted))] := by
  unfold toJson
  rw [Permission.toJson_eq_granted, Json.sorted, Json.sortedMembers, Json.sortedMembers,
    Permission.sorted_grants]
  exact congrArg Json.object (Members.ofList_of_rising
    (List.pairwise_pair.2 (show "credential_name" < "permissions" by decide)))

namespace Client

variable {β : Type}

namespace Call

/-- The body of a call. A call that reads or deletes has none. -/
def body : {β : Type} → Call β → Option Json
  | _, @write _ _ _ e => some e.document
  | _, @generate _ _ _ _ _ e => some e.document
  | _, @regenerate _ _ name => some (.object [("name", .text name.path)])
  | _, .addBatch name permissions =>
    some (.object [("credential_name", .text name.path),
      ("permissions", .list (permissions.map fun p => .object p.granted))])
  | _, .addPermission p => some (.object p.granted)
  | _, .updatePermission _ p => some (.object p.granted)
  | _, .regenerateCertificate _ none => some (.object [])
  | _, .regenerateCertificate _ (some b) => some (.object [("set_as_transitional", .bool b)])
  | _, .regenerateSigned signedBy => some (.object [("signed_by", .text signedBy.path)])
  | _, .setTransitional _ none => some (.object [("version", .null)])
  | _, .setTransitional _ (some id) => some (.object [("version", .text id.text)])
  | _, .interpolate services => some (Json.object services.members).sorted
  | _, _ => none

end Call

theorem body_operation {c : Call β} {op : Operation β} (h : c.operation = .ok op) :
    op.request.body = c.body := by
  cases c with
  | history name versions =>
    obtain rfl := operation_history h
    rfl
  | addBatch name permissions =>
    obtain rfl := operation_addBatch h
    exact congrArg some (PermissionBatch.sorted_toJson ⟨name, permissions⟩)
  | addPermission p | updatePermission _ p =>
    cases h
    exact congrArg some p.sorted_toJson
  | regenerateCertificate _ o | setTransitional _ o =>
    cases h
    cases o <;> rfl
  | _ =>
    cases h
    rfl

/-- **A request has the body of its call.** -/
theorem body_of_request {c : Call β} {q : Request} (h : c.request? = some q) : q.body = c.body := by
  unfold Call.request? at h
  cases hop : c.operation with
  | error e =>
    rw [hop] at h
    cases h
  | ok op =>
    rw [hop] at h
    cases h
    exact body_operation hop

/-- The mark is taken away by a null, where other requests leave out what is not set. -/
example : (Call.setTransitional ⟨"a"⟩ none).body = some (.object [("version", .null)]) ∧
    (Call.regenerateCertificate ⟨"a"⟩ none).body = some (.object []) :=
  ⟨rfl, rfl⟩

end Client

end CredStore
