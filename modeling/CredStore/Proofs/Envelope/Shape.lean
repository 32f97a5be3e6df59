import CredStore.Envelope.Kind
import CredStore.Proofs.Envelope.Build
import CredStore.Proofs.Json.NullFree
import CredStore.Proofs.Json.Record
import CredStore.Proofs.Value.Written

/-!
# The document of an envelope

The members of the document of an envelope are those of the parts that were set, a mode hides the
flag, and no null stands in it (`shape_document`). Keys and words are spelled out here, apart from
the definitions that write them. Together with what edits leave behind and with which drafts are
built, this says what becomes of any edits (`build_ofEdits`).
-/

namespace CredStore

/-! ## Payloads -/

theorem isInvalidArgument_positiveIfSet {what : String} {n : Option UInt32} {e : Error}
    (h : positiveIfSet what n = .error e) : e.isInvalidArgument := by
  unfold positiveIfSet at h
  split at h
  · cases h
    rfl
  · cases h

theorem PasswordParameters.isInvalidArgument_validate {p : PasswordParameters} {e : Error}
    (h : p.validate = .error e) : e.isInvalidArgument := by
  rcases bind_eq_error.1 h with h | ⟨_, -, h⟩
  · exact isInvalidArgument_positiveIfSet h
  · split at h
    · cases h
      rfl
    · cases h

theorem CertificateParameters.isInvalidArgument_validate {p : CertificateParameters} {e : Error}
    (h : p.validate = .error e) : e.isInvalidArgument := by
  unfold CertificateParameters.validate at h
  split at h
  · cases h
    rfl
  · split at h
    · cases h
      rfl
    · exact isInvalidArgument_positiveIfSet h

namespace PayloadKind

/-- A rule of payloads refuses an argument. -/
theorem isInvalidArgument_validate {k : PayloadKind} {p : k.Carrier} {e : Error}
    (h : Payload.validate p = .error e) : e.isInvalidArgument := by
  rcases k with k | k
  · cases h
  · cases k with
    | password => exact PasswordParameters.isInvalidArgument_validate h
    | user => exact PasswordParameters.isInvalidArgument_validate h
    | rsa => cases h
    | ssh => cases h
    | certificate => exact CertificateParameters.isInvalidArgument_validate h

end PayloadKind

/-! ## Nulls -/

open Json

theorem nullFree_value (t : CredentialType) (v : t.Value) (h : t ≠ .json) :
    (CredentialValue.toJson v).NullFree := by
  cases t with
  | value => exact .text _
  | password => exact .text _
  | json => exact absurd rfl h
  | user | certificate | rsa | ssh =>
    refine nullFree_object.2 ?_
    simp [Secret.toJson]

theorem PasswordParameters.nullFree_toJson (p : PasswordParameters) : p.toJson.NullFree := by
  refine nullFree_object.2 ?_
  simp [Json.word, Json.nat, Json.int]

theorem nullFree_parameters (k : ParameterKind) (p : k.Carrier) : (Payload.toJson p).NullFree := by
  cases k with
  | password => exact PasswordParameters.nullFree_toJson p
  | user => exact PasswordParameters.nullFree_toJson _
  | rsa | ssh | certificate =>
    refine nullFree_object.2 ?_
    simp [KeyLength.toJson, Json.int, Json.nat, Json.word, Json.texts, KeyUsage.toJson,
      ExtendedKeyUsage.toJson]

/-- Unset fields are left out at any depth: only a json credential may hold a null. -/
theorem PayloadKind.nullFree_toJson (k : PayloadKind) (p : k.Carrier)
    (h : Payload.tag p ≠ .json) : (Payload.toJson p).NullFree := by
  match k with
  | .value (.typed t) =>
    have htag : CredentialValue.tag (p : t.Value) = t := by cases t <;> rfl
    exact nullFree_value t p fun ht => h (htag.trans ht)
  | .value .any =>
    obtain ⟨v, hv⟩ := AnyValue.exists_of p
    have hjson := nullFree_value p.tag v h
    rw [← AnyValue.toJson_of, ← hv] at hjson
    exact hjson
  | .parameters k => exact nullFree_parameters k p

/-! ## Words -/

/-- The word that stands for a type in a document. -/
def CredentialType.word : CredentialType → String
  | .value => "value"
  | .password => "password"
  | .user => "user"
  | .json => "json"
  | .certificate => "certificate"
  | .rsa => "rsa"
  | .ssh => "ssh"

theorem CredentialType.text_eq_word (t : CredentialType) : t.text = t.word := by
  cases t <;> rfl

/-- The word that stands for a mode in a document. -/
def WriteMode.word : WriteMode → String
  | .overwrite => "overwrite"
  | .noOverwrite => "no-overwrite"
  | .converge => "converge"

theorem WriteMode.toJson_eq_word : WriteMode.toJson = fun m => .text m.word := by
  funext m
  cases m <;> rfl

/-- The word that stands for a kind of access in a document. -/
def Access.word : Access → String
  | .read => "read"
  | .write => "write"
  | .delete => "delete"
  | .readAcl => "read_acl"
  | .writeAcl => "write_acl"

theorem Access.toJson_eq_word : Access.toJson = fun a => .text a.word := by
  funext a
  cases a <;> rfl

/-- The key of the payloads of a kind in a document. -/
def PayloadKind.key : PayloadKind → String
  | .value _ => "value"
  | .parameters _ => "parameters"

theorem PayloadKind.text_field (k : PayloadKind) : k.field.text = k.key := by
  cases k <;> rfl

/-- There are no parameters of json credentials. -/
theorem PayloadKind.key_eq_value {k : PayloadKind} {p : k.Carrier} (h : Payload.tag p = .json) :
    k.key = "value" := by
  rcases k with k | k
  · rfl
  · cases k <;> cases h

/-! ## Permissions -/

namespace Permission

/-- The members for what an actor may do. -/
def granted (p : Permission) : Members :=
  [("actor", .text p.actor.encode), ("operations", .list (p.operations.map fun a => .text a.word))]

theorem toJson_eq_granted : Permission.toJson = fun p => .object p.granted := by
  funext p
  unfold granted
  rw [← Access.toJson_eq_word]
  rfl

/-- The members stand in the order of their keys. -/
theorem rising_granted (p : Permission) : p.granted.Rising :=
  List.pairwise_pair.2 (show "actor" < "operations" by decide)

theorem sortedMembers_granted (p : Permission) : Json.sortedMembers p.granted = p.granted := by
  have hoperations : (Json.list (p.operations.map fun a => .text a.word)).sorted =
      .list (p.operations.map fun a => .text a.word) := by
    refine Json.sorted_list_of_fixed fun j hj => ?_
    obtain ⟨a, -, rfl⟩ := List.mem_map.1 hj
    rfl
  rw [granted, Json.sortedMembers, Json.sortedMembers, hoperations]
  rfl

theorem sorted_grants (ps : List Permission) :
    (Json.list (ps.map fun p => .object p.granted)).sorted =
      .list (ps.map fun p => .object p.granted) := by
  refine Json.sorted_list_of_fixed fun j hj => ?_
  obtain ⟨p, -, rfl⟩ := List.mem_map.1 hj
  rw [Json.sorted, p.sortedMembers_granted, Members.ofList_of_rising p.rising_granted]

end Permission

/-! ## Documents -/

/-- The mode that a document of an envelope denotes. The mode that it states counts, whatever the
flag; without a mode, a flag that is set means to overwrite, and one that is not set to leave the
existing version. -/
def Members.denotedMode? (ms : Members) : Option WriteMode :=
  match ms.get? "mode", ms.get? "overwrite" with
  | some (.text "overwrite"), _ => some .overwrite
  | some (.text "no-overwrite"), _ => some .noOverwrite
  | some (.text "converge"), _ => some .converge
  | some _, _ => none
  | none, some (.bool true) => some .overwrite
  | none, some (.bool false) => some .noOverwrite
  | none, _ => none

namespace Envelope

variable {k : PayloadKind}

/-- The members of the document that is made from what was said. -/
structure Draft.Shape (d : Draft k.Carrier) (ms : Members) : Prop where
  /-- Each key stands once. -/
  rising : ms.Rising
  keys : ∀ key, ms.get? key ≠ none →
    key ∈ ["name", "type", "mode", "overwrite", k.key, "permissions"]
  name : ∃ n, d.name = some n ∧ ms.get? "name" = some (.text n.path)
  payload : ∃ p, d.payload = some p ∧ ms.get? "type" = some (.text (Payload.tag p).word) ∧
    ms.get? k.key = some (Payload.toJson p).sorted
  mode : ms.get? "mode" = d.mode.map fun m => .text m.word
  overwrite : ms.get? "overwrite" = if d.mode = none then d.overwrite.map .bool else none
  permissions : ms.get? "permissions" =
    if d.permissions = [] then none else some (.list (d.permissions.map fun p => .object p.granted))
  denoted : ms.denotedMode? =
    d.mode.or (d.overwrite.map fun overwrite => if overwrite then .overwrite else .noOverwrite)
  /-- No null stands in it, unless in a json credential. -/
  nullFree : ∀ m ∈ ms, m.2.NullFree ∨
    m.1 = "value" ∧ ∃ p, d.payload = some p ∧ Payload.tag p = .json

/-- Whatever is refused is an argument: the rules of payloads refuse arguments too. -/
theorem Draft.isInvalidArgument_build {d : Draft k.Carrier} {e : Error}
    (h : d.build = .error e) : e.isInvalidArgument := by
  rcases Draft.refused_of_build h with h | ⟨p, -, hp⟩
  · exact h
  · exact PayloadKind.isInvalidArgument_validate hp

theorem modeField_reconcile (m : Option WriteMode) (b : Option Bool) :
    (WritePolicy.reconcile m b).value.modeField = m := by
  cases m <;> cases b <;> rfl

theorem flagField_reconcile (m : Option WriteMode) (b : Option Bool) :
    (WritePolicy.reconcile m b).value.flagField = if m = none then b else none := by
  cases m <;> cases b <;> rfl

/-- A mode counts whatever the flag; without a mode, the flag says whether to overwrite. -/
theorem effectiveMode_reconcile (m : Option WriteMode) (b : Option Bool) :
    (WritePolicy.reconcile m b).value.effectiveMode =
      m.or (b.map fun overwrite => if overwrite then .overwrite else .noOverwrite) := by
  cases m <;> cases b <;> rfl

/-- The members of an envelope in the order in which they are written. -/
def members (e : Envelope k.Carrier) : Members :=
  [("name", .text e.name.path), ("type", .text (Payload.tag e.payload).word)] ++
    Json.member? "mode" (fun m => .text m.word) e.policy.modeField ++
    Json.member? "overwrite" .bool e.policy.flagField ++
    [(k.key, Payload.toJson e.payload)] ++
    Json.member? "permissions" (fun ps => .list (ps.map fun p => .object p.granted))
      (if e.permissions.isEmpty then none else some e.permissions)

theorem document_eq (e : Envelope k.Carrier) :
    e.document = .object (Members.ofList (Json.sortedMembers e.members)) := by
  rw [document, toJson, k.field_eq, k.text_field, CredentialType.toJson,
    CredentialType.text_eq_word, WriteMode.toJson_eq_word, Permission.toJson_eq_granted]
  rfl

/-- What stands under a key of the document of an envelope. -/
theorem get?_document (e : Envelope k.Carrier) (key : String) :
    Members.get? (Members.ofList (Json.sortedMembers e.members)) key =
      if key = "name" then some (.text e.name.path)
      else if key = "type" then some (.text (Payload.tag e.payload).word)
      else if key = "mode" then e.policy.modeField.map fun m => .text m.word
      else if key = "overwrite" then e.policy.flagField.map .bool
      else if key = k.key then some (Payload.toJson e.payload).sorted
      else if key = "permissions" then
        if e.permissions = [] then none
        else some (.list (e.permissions.map fun p => .object p.granted))
      else none := by
  have hmode : (e.policy.modeField.map fun m => Json.text m.word).map Json.sorted =
      e.policy.modeField.map fun m => .text m.word := by
    cases e.policy.modeField <;> rfl
  have hflag : (e.policy.flagField.map Json.bool).map Json.sorted =
      e.policy.flagField.map Json.bool := by
    cases e.policy.flagField <;> rfl
  have hpermissions : (Option.map
      (fun ps : List Permission => Json.list (ps.map fun p => .object p.granted))
      (if e.permissions.isEmpty then none else some e.permissions)).map Json.sorted =
        if e.permissions = [] then none
        else some (.list (e.permissions.map fun p => .object p.granted)) := by
    cases e.permissions with
    | nil => rfl
    | cons p ps => exact congrArg some (Permission.sorted_grants (p :: ps))
  have hword : k.key = "value" ∨ k.key = "parameters" := by
    cases k
    · exact .inl rfl
    · exact .inr rfl
  rw [Members.get?_sorted, members]
  simp only [List.reverse_append, Members.get?_append, Members.reverse_member?,
    Members.get?_member?, List.reverse_cons, List.reverse_nil, List.nil_append, Members.get?_cons,
    Members.get?_nil, List.cons_append]
  generalize k.key = word at *
  by_cases hname : key = "name"
  · subst hname
    rcases hword with rfl | rfl <;> simp [Json.sorted]
  by_cases htype : key = "type"
  · subst htype
    rcases hword with rfl | rfl <;> simp [Json.sorted]
  by_cases hmode' : key = "mode"
  · subst hmode'
    rcases hword with rfl | rfl <;> simpa using hmode
  by_cases hflag' : key = "overwrite"
  · subst hflag'
    rcases hword with rfl | rfl <;> simpa using hflag
  by_cases hpayload : key = word
  · subst hpayload
    rcases hword with rfl | rfl <;> simp
  by_cases hpermissions' : key = "permissions"
  · subst hpermissions'
    rcases hword with rfl | rfl <;> simpa using hpermissions
  simp [*]

/-- A null can stand in the content of a json credential only. -/
theorem nullFree_document (e : Envelope k.Carrier) {m : String × Json}
    (h : m ∈ Members.ofList (Json.sortedMembers e.members)) :
    m.2.NullFree ∨ m.1 = "value" ∧ Payload.tag e.payload = .json := by
  obtain ⟨n, hn, rfl⟩ := Json.mem_sortedMembers (Members.mem_ofList h)
  by_cases hjson : n = (k.key, Payload.toJson e.payload)
  · subst hjson
    by_cases htag : Payload.tag e.payload = .json
    · rw [PayloadKind.key_eq_value htag]
      exact .inr ⟨rfl, htag⟩
    · exact .inl (k.nullFree_toJson e.payload htag).sorted
  · refine .inl (Json.NullFree.sorted ?_)
    have hfront : Members.NullFree
        ([("name", .text e.name.path), ("type", .text (Payload.tag e.payload).word)] ++
          Json.member? "mode" (fun m => .text m.word) e.policy.modeField ++
          Json.member? "overwrite" .bool e.policy.flagField) := by
      simp
    have hback : Members.NullFree (Json.member? "permissions"
        (fun ps : List Permission => .list (ps.map fun p => .object p.granted))
        (if e.permissions.isEmpty then none else some e.permissions)) := by
      simp [Permission.granted]
    rw [members, List.mem_append, List.mem_append, List.mem_singleton] at hn
    rcases hn with (hn | hn) | hn
    · exact hfront n hn
    · exact absurd hn hjson
    · exact hback n hn

/-- The members of the document of what was said are those of its parts that are set. -/
theorem shape_document {d : Draft k.Carrier} {e : Envelope k.Carrier} (h : d.build = .ok e) :
    ∃ ms : Members, e.document = .object ms ∧ d.Shape ms := by
  obtain ⟨n, p, hd, rfl⟩ := Draft.build_eq_ok.1 h
  refine ⟨_, document_eq _, ?_⟩
  have hget := @get?_document k
    ⟨n, p, (WritePolicy.reconcile d.mode d.overwrite).value, d.permissions⟩
  have hnull := @nullFree_document k
    ⟨n, p, (WritePolicy.reconcile d.mode d.overwrite).value, d.permissions⟩
  have hrising := Members.rising_ofList (Json.sortedMembers
    (@members k ⟨n, p, (WritePolicy.reconcile d.mode d.overwrite).value, d.permissions⟩))
  generalize Members.ofList (Json.sortedMembers _) = ms at hget hnull hrising ⊢
  rw [modeField_reconcile, flagField_reconcile] at hget
  have hmode : ms.get? "mode" = d.mode.map fun m => .text m.word := hget "mode"
  have hflag : ms.get? "overwrite" = if d.mode = none then d.overwrite.map .bool else none := by
    rw [hget]
    cases d.mode <;> rfl
  refine ⟨hrising, fun key hkey => ?_, ⟨n, hd.name, hget "name"⟩,
    ⟨p, hd.payload, hget "type", ?_⟩, hmode, hflag, ?_, ?_, fun m hm => ?_⟩
  · refine Decidable.byContradiction fun hno => hkey ?_
    simp only [List.mem_cons, List.not_mem_nil, or_false, not_or] at hno
    rw [hget]
    simp only [hno, if_false]
  · rw [hget]
    cases k <;> rfl
  · rw [hget]
    cases k <;> rfl
  · rw [Members.denotedMode?, hmode, hflag]
    cases d.mode with
    | some m => cases m <;> rfl
    | none => rcases d.overwrite with - | - | - <;> rfl
  · exact (hnull hm).imp_right fun h => ⟨h.1, p, hd.payload, h.2⟩

/-! ## What was said, and what is sent -/

/-- **An envelope is what was said last.** Whatever the order of the edits and however often a part
was set, the outcome depends on the last name, payload, mode and flag and on all permissions in
order. There is an envelope if name and payload were set, the payload keeps its rule, and
permissions go with a value; whatever else was said is refused. The document has a member for each
part that was set and no other, except that a mode hides the flag; it denotes the mode that the
envelope has. -/
theorem build_ofEdits (k : PayloadKind) (es : List (Edit k.Carrier)) :
    Draft.ofEdits es = Draft.said es ∧
    ((∃ e, (Draft.ofEdits es).build = .ok e) ↔ (Draft.said es).name.isSome ∧
      (∃ p, (Draft.said es).payload = some p ∧ Payload.validate p = .ok ()) ∧
      (k.field = .value ∨ (Draft.said es).permissions = [])) ∧
    (∀ err, (Draft.ofEdits es).build = .error err → err.isInvalidArgument) ∧
    ∀ e, (Draft.ofEdits es).build = .ok e → ∃ ms : Members, e.document = .object ms ∧
      (Draft.said es).Shape ms ∧ ms.denotedMode? = e.policy.effectiveMode := by
  rw [Draft.ofEdits_eq_said]
  refine ⟨rfl, ⟨?_, ?_⟩, fun err h => Draft.isInvalidArgument_build h, fun e h => ?_⟩
  · rintro ⟨e, h⟩
    obtain ⟨n, p, hd, -⟩ := Draft.build_eq_ok.1 h
    rw [hd.name]
    exact ⟨rfl, ⟨p, hd.payload, hd.valid⟩, k.field_eq ▸ hd.permitted⟩
  · rintro ⟨hn, ⟨p, hp, hvalid⟩, hpermitted⟩
    obtain ⟨n, hn⟩ := Option.isSome_iff_exists.1 hn
    exact ⟨_, Draft.build_eq_ok.2 ⟨n, p, ⟨hn, hp, hvalid, k.field_eq ▸ hpermitted⟩, rfl⟩⟩
  · obtain ⟨ms, hms, hshape⟩ := shape_document h
    refine ⟨ms, hms, hshape, ?_⟩
    obtain ⟨n, p, -, rfl⟩ := Draft.build_eq_ok.1 h
    rw [hshape.denoted, effectiveMode_reconcile]

end Envelope

end CredStore
