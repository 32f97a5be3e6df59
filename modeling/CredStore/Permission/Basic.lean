import CredStore.Actor
import CredStore.Distinct
import CredStore.Error
import CredStore.Inspect
import CredStore.Json.Record
import CredStore.Name.Basic

/-!
# Permissions

A permission grants one actor some kinds of access, at least one and none twice. Built or decoded,
it keeps each kind where it was first given. A batch holds all permissions on one credential, as the
first version of the permission service handles them.
-/

namespace CredStore

/-! ## Kinds of access -/

/-- What a permission allows its actor to do. -/
inductive Access where
  | read
  | write
  | delete
  | readAcl
  | writeAcl
  deriving DecidableEq, Repr

namespace Access

/-- All kinds in the order of declaration. -/
def all : List Access :=
  [.read, .write, .delete, .readAcl, .writeAcl]

/-- The word in documents. -/
def text : Access → String
  | .read => "read"
  | .write => "write"
  | .delete => "delete"
  | .readAcl => "read_acl"
  | .writeAcl => "write_acl"

/-- The name of the kind where it is inspected. -/
def name : Access → String
  | .read => "Read"
  | .write => "Write"
  | .delete => "Delete"
  | .readAcl => "ReadAcl"
  | .writeAcl => "WriteAcl"

/-- The kinds by their words. -/
def words : List (String × Access) :=
  all.map fun a => (a.text, a)

/-- Reads a kind from its word in a document. -/
def decoder : Decoder Access :=
  Decoder.oneOf words

def toJson (a : Access) : Json :=
  .text a.text

def inspect (a : Access) : Inspect :=
  .atom a.name

end Access

/-! ## Permissions of an actor -/

/-- What one actor may do. -/
structure Permission where
  actor : Actor
  operations : List Access
  operations_ne : operations ≠ []
  nodup : operations.Nodup
  deriving DecidableEq

namespace Permission

/-- `p` grants this kind of access. -/
def allows (p : Permission) (o : Access) : Bool :=
  p.operations.contains o

/-! ## Building -/

/-- A permission of which some parts are still to be set. -/
structure Draft where
  actor : Option Actor := none
  operations : List Access := []
  nodup : operations.Nodup := by simp

/-- Sets or adds one part of a draft. -/
inductive Edit where
  | actor (a : Actor)
  /-- An actor by its type and identity. -/
  | identity (type : ActorType) (s : String)
  | operation (o : Access)
  | operations (os : List Access)

namespace Draft

/-- Sets the actor; one that was set before is replaced. -/
def setActor (d : Draft) (a : Actor) : Draft :=
  { d with actor := some a }

/-- Adds kinds of access that the draft does not have yet. -/
def grant (d : Draft) (os : List Access) : Draft where
  actor := d.actor
  operations := Distinct.addAll d.operations os
  nodup := Distinct.nodup_addAll d.nodup os

/-- The draft after one edit. An edit with an empty identity is refused. -/
def edit (d : Draft) : Edit → Outcome Draft
  | .actor a => .ok (d.setActor a)
  | .identity type s => (Actor.make type s).map d.setActor
  | .operation o => .ok (d.grant [o])
  | .operations os => .ok (d.grant os)

/-- The permission; the actor is asked for first. -/
def build (d : Draft) : Outcome Permission :=
  match d.actor with
  | none => refuse (.unset "permission actor")
  | some actor =>
    if h : d.operations ≠ [] then .ok ⟨actor, d.operations, h, d.nodup⟩ else refuse .noOperation

end Draft

/-! ## Documents -/

/-- The parts of a permission as a document gives them. -/
structure Raw where
  actor : Actor
  operations : List Access

/-- The permission with these parts. -/
def ofRaw (raw : Raw) : Outcome Permission :=
  (({} : Draft).setActor raw.actor |>.grant raw.operations).build

def record : Record Raw :=
  Raw.mk <$> Record.required "actor" Actor.decoder
    <*> Record.required "operations" (Decoder.list Access.decoder)

def decoder : Decoder Permission :=
  (record.decoder "RawPermission").ruled ofRaw

def toJson (p : Permission) : Json :=
  .object [("actor", p.actor.toJson), ("operations", .list (p.operations.map Access.toJson))]

def inspect (p : Permission) : Inspect :=
  .record "Permission"
    [("actor", p.actor.inspect), ("operations", .list (p.operations.map Access.inspect))]

end Permission

/-! ## Batches -/

/-- The permissions on one credential. -/
structure PermissionBatch where
  name : Name
  permissions : List Permission
  deriving DecidableEq

namespace PermissionBatch

/-- The fields of a batch. The list may be missing. -/
def record : Record PermissionBatch :=
  PermissionBatch.mk <$> Record.required "credential_name" Name.decoder
    <*> Record.defaulted "permissions" [] (Decoder.list Permission.decoder)

def decoder : Decoder PermissionBatch :=
  record.decoder "CredentialPermissions"

def toJson (b : PermissionBatch) : Json :=
  .object [("credential_name", b.name.toJson),
    ("permissions", .list (b.permissions.map Permission.toJson))]

end PermissionBatch

end CredStore
