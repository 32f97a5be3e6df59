import CredStore.Identifier
import CredStore.Permission.Basic

/-!
# Addressed permissions

A permission on a path with an identifier of its own, as the second version of the permission
service handles it. A path may end in `*` and is kept as it is.
-/

namespace CredStore

/-- A permission on a path. Only one that was read from the server has an identifier. -/
@[ext] structure AddressedPermission where
  uuid : Option PermissionId
  path : String
  permission : Permission
  path_ne : path ≠ ""

namespace AddressedPermission

instance : DecidableEq AddressedPermission := fun _ _ =>
  decidable_of_iff' _ AddressedPermission.ext_iff

/-! ## Building -/

/-- An addressed permission of which some parts are still to be set. -/
structure Draft where
  path : Option String := none
  permission : Option Permission := none

/-- Sets one part of a draft. -/
inductive Edit where
  | path (s : String)
  | permission (p : Permission)

namespace Draft

/-- The draft after one edit; a part that was set before is replaced. -/
def edit (d : Draft) : Edit → Draft
  | .path s => { d with path := some s }
  | .permission p => { d with permission := some p }

/-- The permission, without an identifier. An empty path counts as unset. -/
def build (d : Draft) : Outcome AddressedPermission :=
  if h : d.path.getD "" ≠ "" then
    match d.permission with
    | some p => .ok ⟨none, d.path.getD "", p, h⟩
    | none => refuse (.unset "permission")
  else refuse (.unset "permission path")

end Draft

/-! ## Documents -/

/-- The parts of an addressed permission as a document gives them. -/
structure Raw where
  uuid : Option PermissionId
  path : String
  actor : Actor
  operations : List Access

/-- The addressed permission with these parts; its grant is checked before its path. -/
def ofRaw (raw : Raw) : Outcome AddressedPermission := do
  let permission ← Permission.ofRaw ⟨raw.actor, raw.operations⟩
  let built ← Draft.build ⟨some raw.path, some permission⟩
  return { built with uuid := raw.uuid }

def record : Record Raw :=
  Raw.mk <$> Record.optional "uuid" Identifier.decoder
    <*> Record.required "path" Decoder.text
    <*> Record.required "actor" Actor.decoder
    <*> Record.required "operations" (Decoder.list Access.decoder)

def decoder : Decoder AddressedPermission :=
  (record.decoder "RawCredentialPermission").ruled ofRaw

def toJson (p : AddressedPermission) : Json :=
  .object (Json.member? "uuid" Identifier.toJson p.uuid ++
    [("path", .text p.path), ("actor", p.permission.actor.toJson),
      ("operations", .list (p.permission.operations.map Access.toJson))])

end AddressedPermission

end CredStore
