import CredStore.Permission.Addressed
import CredStore.Permission.Basic
import CredStore.Proofs.Actor.Wire
import CredStore.Proofs.Json.Rewrite
import CredStore.Proofs.Name.Path

/-!
# Documents of permissions

A permission is read back from its document, in a batch and with an address too. An object is a
permission when it names an actor and lists at least one kind of access (`Members.Grants`); of kinds
that are listed more than once, the first counts. With an address it must have a path besides, and
may have an identifier (`AddressedPermission.decoder_object`). The main statement puts all this
together (`documents_of_permissions`).
-/

namespace CredStore

variable {ms : Members}

/-- The members name the actor `a` and list the kinds of access `os`, at least one. -/
structure Members.Grants (ms : Members) (a : Actor) (os : List Access) : Prop where
  actor : ∃ j, ms.get? "actor" = some j ∧ Actor.decoder j = .ok a
  operations : ∃ js, ms.get? "operations" = some (.list js) ∧ js.map Access.decoder = os.map .ok
  ne_nil : os ≠ []

/-- There is a grant when the actor can be read and so can each of the kinds of access. -/
theorem Members.exists_grants :
    (∃ a os, ms.Grants a os) ↔
      (∃ j a, ms.get? "actor" = some j ∧ Actor.decoder j = .ok a) ∧
      ∃ js, ms.get? "operations" = some (.list js) ∧ js ≠ [] ∧
        ∀ j ∈ js, ∃ o, Access.decoder j = .ok o := by
  have hnil : ∀ {js : List Json} {os : List Access},
      js.map Access.decoder = os.map .ok → (js ≠ [] ↔ os ≠ []) := by
    intro js os h
    rw [← List.map_eq_nil_iff.ne, h, List.map_eq_nil_iff.ne]
  refine ⟨?_, ?_⟩
  · rintro ⟨a, os, ⟨j, hj, ha⟩, ⟨js, hjs, hos⟩, hne⟩
    exact ⟨⟨j, a, hj, ha⟩, js, hjs, (hnil hos).2 hne, exists_map_eq_ok.1 ⟨os, hos⟩⟩
  · rintro ⟨⟨j, a, hj, ha⟩, js, hjs, hne, hall⟩
    obtain ⟨os, hos⟩ := exists_map_eq_ok.2 hall
    exact ⟨a, os, ⟨j, hj, ha⟩, ⟨js, hjs, hos⟩, (hnil hos).1 hne⟩

theorem Access.decoder_toJson (o : Access) : Access.decoder o.toJson.sorted = .ok o := by
  cases o <;> rfl

/-! ## Permissions -/

namespace Permission

instance : Record.Lawful record := by
  unfold record
  infer_instance

theorem ofRaw_eq_ok {raw : Raw} {p : Permission} :
    ofRaw raw = .ok p ↔
      raw.operations ≠ [] ∧ p.actor = raw.actor ∧ p.operations = raw.operations.eraseDups := by
  have hnil : raw.operations.eraseDups ≠ [] ↔ raw.operations ≠ [] := by
    cases raw.operations <;> simp [List.eraseDups_cons]
  have hgrant : Distinct.addAll [] raw.operations = raw.operations.eraseDups :=
    Distinct.ofList_eq_eraseDups _
  obtain ⟨actor, operations, hne, hnodup⟩ := p
  simp only [ofRaw, Draft.build, Draft.grant, Draft.setActor, hgrant]
  by_cases h : raw.operations = []
  · simp [h, refuse]
  · simp [hnil.2 h, h, eq_comm]

theorem build_record {raw : Raw} :
    record.build (.members ms) 0 = .ok raw ↔
      (∃ j, ms.get? "actor" = some j ∧ Actor.decoder j = .ok raw.actor) ∧
      ∃ js, ms.get? "operations" = some (.list js) ∧
        js.map Access.decoder = raw.operations.map .ok := by
  obtain ⟨actor, operations⟩ := raw
  simp only [record, Record.build_seq_eq_ok, Record.build_map, map_eq_ok,
    Record.build_required_eq_ok, Decoder.list_eq_ok]
  simp

/-- **Which objects are permissions**: those that grant something, and then of each kind of access
the first counts. -/
theorem decoder_object (h : ms.Rising) {p : Permission} :
    decoder (.object ms) = .ok p ↔
      ∃ os, ms.Grants p.actor os ∧ p.operations = os.eraseDups := by
  unfold decoder
  simp only [Decoder.ruled_eq_ok, Record.decoder_object_eq_ok h, build_record, ofRaw_eq_ok]
  refine ⟨?_, ?_⟩
  · rintro ⟨raw, ⟨hactor, hoperations⟩, hne, ha, hos⟩
    exact ⟨raw.operations, ⟨ha ▸ hactor, hoperations, hne⟩, hos⟩
  · rintro ⟨os, hgrants, hos⟩
    exact ⟨⟨p.actor, os⟩, ⟨hgrants.actor, hgrants.operations⟩, hgrants.ne_nil, rfl, hos⟩

theorem exists_decoder_object (h : ms.Rising) :
    (∃ p, decoder (.object ms) = .ok p) ↔ ∃ a os, ms.Grants a os := by
  refine ⟨?_, ?_⟩
  · rintro ⟨p, hp⟩
    obtain ⟨os, hgrants, -⟩ := (decoder_object h).1 hp
    exact ⟨p.actor, os, hgrants⟩
  · rintro ⟨a, os, hgrants⟩
    obtain ⟨p, hp⟩ : ∃ p, ofRaw ⟨a, os⟩ = .ok p := by
      have hne : Distinct.addAll [] os ≠ [] := by
        obtain ⟨o, ho⟩ := List.exists_mem_of_ne_nil os hgrants.ne_nil
        exact List.ne_nil_of_mem (Distinct.mem_addAll.2 (.inr ho))
      exact ⟨_, dif_pos hne⟩
    obtain ⟨-, rfl, hos⟩ := ofRaw_eq_ok.1 hp
    exact ⟨p, (decoder_object h).2 ⟨os, hgrants, hos⟩⟩

/-- **A permission is read back from its document.** -/
theorem decoder_toJson (p : Permission) : decoder p.toJson.sorted = .ok p := by
  refine Decoder.ruled_eq_ok.2 ⟨⟨p.actor, p.operations⟩, ?_, ?_⟩
  · refine (Record.decoder_sorted_eq_ok _).2 (build_record.2 ⟨⟨p.actor.toJson, ?_, ?_⟩,
      (p.operations.map Access.toJson).map Json.sorted, ?_, ?_⟩)
    · simp [Actor.toJson, Json.sorted]
    · exact p.actor.decoder_toJson
    · simp [Json.sorted_list]
    · exact Decoder.map_toJson Access.decoder_toJson p.operations
  · exact ofRaw_eq_ok.2 ⟨p.operations_ne, rfl, (Distinct.eraseDups_of_nodup p.nodup).symm⟩

end Permission

/-! ## Batches -/

namespace PermissionBatch

instance : Record.Lawful record := by
  unfold record
  infer_instance

theorem build_record {b : PermissionBatch} :
    record.build (.members ms) 0 = .ok b ↔
      (∃ j, ms.get? "credential_name" = some j ∧ Name.decoder j = .ok b.name) ∧
      ((ms.get? "permissions" = none ∧ b.permissions = []) ∨
        ∃ js, ms.get? "permissions" = some (.list js) ∧
          js.map Permission.decoder = b.permissions.map .ok) := by
  obtain ⟨name, permissions⟩ := b
  simp only [record, Record.build_seq_eq_ok, Record.build_map, map_eq_ok,
    Record.build_required_eq_ok, Record.build_defaulted_eq_ok, Decoder.list_eq_ok]
  simp

/-- A batch may leave out its list; a list must hold permissions only, and a null is no list. -/
theorem decoder_object (h : ms.Rising) {b : PermissionBatch} :
    decoder (.object ms) = .ok b ↔
      (∃ j, ms.get? "credential_name" = some j ∧ Name.decoder j = .ok b.name) ∧
      ((ms.get? "permissions" = none ∧ b.permissions = []) ∨
        ∃ js, ms.get? "permissions" = some (.list js) ∧
          js.map Permission.decoder = b.permissions.map .ok) :=
  (Record.decoder_object_eq_ok h).trans build_record

/-- **A batch is read back from its document.** -/
theorem decoder_toJson (b : PermissionBatch) : decoder b.toJson.sorted = .ok b := by
  refine (Record.decoder_sorted_eq_ok _).2 (build_record.2 ⟨⟨b.name.toJson, ?_, ?_⟩, .inr
    ⟨(b.permissions.map Permission.toJson).map Json.sorted, ?_, ?_⟩⟩)
  · simp [Name.toJson, Json.sorted]
  · exact b.name.decoder_toJson
  · simp [Json.sorted_list]
  · exact Decoder.map_toJson Permission.decoder_toJson b.permissions

end PermissionBatch

/-! ## Addressed permissions -/

namespace AddressedPermission

instance : Record.Lawful record := by
  unfold record
  infer_instance

/-- The identifier `o` is given, as a text; none is left out or a null. -/
def Identifies (ms : Members) (o : Option PermissionId) : Prop :=
  ((ms.get? "uuid" = none ∨ ms.get? "uuid" = some .null) ∧ o = none) ∨
    ∃ s, ms.get? "uuid" = some (.text s) ∧ o = some ⟨s⟩

theorem ofRaw_eq_ok {raw : Raw} {p : AddressedPermission} :
    ofRaw raw = .ok p ↔ Permission.ofRaw ⟨raw.actor, raw.operations⟩ = .ok p.permission ∧
      raw.path = p.path ∧ p.uuid = raw.uuid := by
  obtain ⟨uuid, path, permission, hpath⟩ := p
  show (Permission.ofRaw ⟨raw.actor, raw.operations⟩).bind (fun permission =>
    (Draft.build ⟨some raw.path, some permission⟩).bind fun built =>
      .ok { built with uuid := raw.uuid }) = .ok _ ↔ _
  simp only [bind_eq_ok, Draft.build, Option.getD_some]
  by_cases h : raw.path = ""
  · have hne : raw.path ≠ path := fun e => hpath (e ▸ h)
    simp [h, refuse, hpath.symm]
  · simp [h, eq_comm, and_comm]

theorem build_uuid {i : Nat} {o : Option PermissionId} :
    (Record.optional "uuid" Identifier.decoder).build (.members ms) i = .ok o ↔
      Identifies ms o := by
  simp only [Record.build_optional_eq_ok, Decoder.option_eq_ok, Identifier.decoder, map_eq_ok,
    Decoder.text_eq_ok, Identifies]
  grind

theorem build_record {raw : Raw} :
    record.build (.members ms) 0 = .ok raw ↔
      Identifies ms raw.uuid ∧ ms.get? "path" = some (.text raw.path) ∧
      (∃ j, ms.get? "actor" = some j ∧ Actor.decoder j = .ok raw.actor) ∧
      ∃ js, ms.get? "operations" = some (.list js) ∧
        js.map Access.decoder = raw.operations.map .ok := by
  obtain ⟨uuid, path, actor, operations⟩ := raw
  simp only [record, Record.build_seq_eq_ok, Record.build_map, map_eq_ok, build_uuid,
    Record.build_required_eq_ok, Decoder.list_eq_ok, Decoder.text_eq_ok]
  simp [and_assoc]

/-- **Which objects are permissions with an address**: those that grant something on a path. -/
theorem decoder_object (h : ms.Rising) {p : AddressedPermission} :
    decoder (.object ms) = .ok p ↔
      (∃ os, ms.Grants p.permission.actor os ∧ p.permission.operations = os.eraseDups) ∧
      ms.get? "path" = some (.text p.path) ∧ Identifies ms p.uuid := by
  unfold decoder
  simp only [Decoder.ruled_eq_ok, Record.decoder_object_eq_ok h, build_record, ofRaw_eq_ok,
    Permission.ofRaw_eq_ok]
  refine ⟨?_, ?_⟩
  · rintro ⟨raw, ⟨huuid, hpath, hactor, hoperations⟩, ⟨hne, ha, hos⟩, hp, hu⟩
    exact ⟨⟨raw.operations, ⟨ha ▸ hactor, hoperations, hne⟩, hos⟩, hp ▸ hpath, hu ▸ huuid⟩
  · rintro ⟨⟨os, hgrants, hos⟩, hpath, huuid⟩
    exact ⟨⟨p.uuid, p.path, p.permission.actor, os⟩,
      ⟨huuid, hpath, hgrants.actor, hgrants.operations⟩, ⟨hgrants.ne_nil, rfl, hos⟩, rfl, rfl⟩

/-- A permission on a path, with an identifier or without. -/
theorem exists_decoder_object (h : ms.Rising) :
    (∃ p, decoder (.object ms) = .ok p) ↔
      (∃ p, Permission.decoder (.object ms) = .ok p) ∧
      (∃ s, s ≠ "" ∧ ms.get? "path" = some (.text s)) ∧
      (ms.get? "uuid" = none ∨ ms.get? "uuid" = some .null ∨
        ∃ s, ms.get? "uuid" = some (.text s)) := by
  refine ⟨?_, ?_⟩
  · rintro ⟨p, hp⟩
    obtain ⟨hgrants, hpath, huuid⟩ := (decoder_object h).1 hp
    refine ⟨⟨_, (Permission.decoder_object h).2 hgrants⟩, ⟨p.path, p.path_ne, hpath⟩, ?_⟩
    rcases huuid with ⟨hnone | hnull, -⟩ | ⟨s, hs, -⟩
    · exact .inl hnone
    · exact .inr (.inl hnull)
    · exact .inr (.inr ⟨s, hs⟩)
  · rintro ⟨⟨p, hp⟩, ⟨path, hne, hpath⟩, huuid⟩
    obtain ⟨o, ho⟩ : ∃ o, Identifies ms o := by
      rcases huuid with hnone | hnull | ⟨s, hs⟩
      · exact ⟨none, .inl ⟨.inl hnone, rfl⟩⟩
      · exact ⟨none, .inl ⟨.inr hnull, rfl⟩⟩
      · exact ⟨some ⟨s⟩, .inr ⟨s, hs, rfl⟩⟩
    exact ⟨⟨o, path, p, hne⟩,
      (decoder_object h).2 ⟨(Permission.decoder_object h).1 hp, hpath, ho⟩⟩

/-- **A permission is read back from its document**, its identifier included. -/
theorem decoder_toJson (p : AddressedPermission) : decoder p.toJson.sorted = .ok p := by
  refine Decoder.ruled_eq_ok.2 ⟨⟨p.uuid, p.path, p.permission.actor, p.permission.operations⟩, ?_,
    ?_⟩
  · refine (Record.decoder_sorted_eq_ok _).2 (build_record.2 ⟨?_, ?_, ⟨p.permission.actor.toJson,
      ?_, p.permission.actor.decoder_toJson⟩,
      (p.permission.operations.map Access.toJson).map Json.sorted, ?_, ?_⟩)
    · cases huuid : p.uuid <;> simp [Identifies, Identifier.toJson, Json.sorted]
    · simp [Json.sorted]
    · simp [Actor.toJson, Json.sorted]
    · simp [Json.sorted_list]
    · exact Decoder.map_toJson Access.decoder_toJson p.permission.operations
  · refine ofRaw_eq_ok.2 ⟨Permission.ofRaw_eq_ok.2 ⟨p.permission.operations_ne, rfl, ?_⟩, rfl, rfl⟩
    exact (Distinct.eraseDups_of_nodup p.permission.nodup).symm

end AddressedPermission

/-! ## All three -/

/-- **Documents of permissions.** Permissions, batches and addressed permissions are read back from
their documents. An object is a permission when its actor can be read and its operations are a list,
not empty, of which each item can be read; it is an addressed permission when it has a path
besides, not empty, and no identifier, a null or a text. Of the operations that are listed the later
repetitions are dropped. A batch may leave out its list, which is then empty; it must not be null.
So what is written of any document that can be read stays as it is when it is read and written
again. -/
theorem documents_of_permissions :
    ((∀ p : Permission, Permission.decoder p.toJson.sorted = .ok p) ∧
      (∀ b : PermissionBatch, PermissionBatch.decoder b.toJson.sorted = .ok b) ∧
      ∀ p : AddressedPermission, AddressedPermission.decoder p.toJson.sorted = .ok p) ∧
    (∀ ms : Members, ms.Rising →
      ((∃ p, Permission.decoder (.object ms) = .ok p) ↔
        (∃ j a, ms.get? "actor" = some j ∧ Actor.decoder j = .ok a) ∧
        ∃ js, ms.get? "operations" = some (.list js) ∧ js ≠ [] ∧
          ∀ j ∈ js, ∃ o, Access.decoder j = .ok o) ∧
      ((∃ p, AddressedPermission.decoder (.object ms) = .ok p) ↔
        (∃ p, Permission.decoder (.object ms) = .ok p) ∧
        (∃ s, s ≠ "" ∧ ms.get? "path" = some (.text s)) ∧
        (ms.get? "uuid" = none ∨ ms.get? "uuid" = some .null ∨
          ∃ s, ms.get? "uuid" = some (.text s))) ∧
      (∀ p, Permission.decoder (.object ms) = .ok p ↔
        ∃ os, ms.Grants p.actor os ∧ p.operations = os.eraseDups) ∧
      (∀ p, AddressedPermission.decoder (.object ms) = .ok p ↔
        Permission.decoder (.object ms) = .ok p.permission ∧
        ms.get? "path" = some (.text p.path) ∧ AddressedPermission.Identifies ms p.uuid) ∧
      ∀ b, PermissionBatch.decoder (.object ms) = .ok b ↔
        (∃ j, ms.get? "credential_name" = some j ∧ Name.decoder j = .ok b.name) ∧
        ((ms.get? "permissions" = none ∧ b.permissions = []) ∨
          ∃ js, ms.get? "permissions" = some (.list js) ∧
            js.map Permission.decoder = b.permissions.map .ok)) ∧
    ∀ j j' : Json,
      (Permission.decoder.rewrite Permission.toJson j = .ok j' →
        Permission.decoder.rewrite Permission.toJson j' = .ok j') ∧
      (PermissionBatch.decoder.rewrite PermissionBatch.toJson j = .ok j' →
        PermissionBatch.decoder.rewrite PermissionBatch.toJson j' = .ok j') ∧
      (AddressedPermission.decoder.rewrite AddressedPermission.toJson j = .ok j' →
        AddressedPermission.decoder.rewrite AddressedPermission.toJson j' = .ok j') := by
  refine ⟨⟨Permission.decoder_toJson, PermissionBatch.decoder_toJson,
    AddressedPermission.decoder_toJson⟩, fun ms h => ?_, fun j j' => ⟨?_, ?_, ?_⟩⟩
  · refine ⟨?_, AddressedPermission.exists_decoder_object h, fun p => Permission.decoder_object h,
      fun p => ?_, fun b => PermissionBatch.decoder_object h⟩
    · rw [Permission.exists_decoder_object h, Members.exists_grants]
    · rw [AddressedPermission.decoder_object h, Permission.decoder_object h]
  · exact (Decoder.restores_id Permission.decoder_toJson).rewrite_fixed
  · exact (Decoder.restores_id PermissionBatch.decoder_toJson).rewrite_fixed
  · exact (Decoder.restores_id AddressedPermission.decoder_toJson).rewrite_fixed

end CredStore
