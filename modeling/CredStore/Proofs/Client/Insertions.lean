import CredStore.Certificate
import CredStore.Permission.Addressed
import CredStore.Permission.Basic
import CredStore.Proofs.Json.Rewrite
import CredStore.Proofs.Json.Shape
import CredStore.Proofs.Value.Refused

/-!
# Answers with members that nobody asked for

A server may say more than a client knows of, and may say null where it has nothing to say. The
shapes of the answers are given here, with all fields that are declared; as every reader follows
the shape of what it reads (`answers_follow`), such members are not noticed. Only a list or a flag
that has a default must not be null.
-/

namespace CredStore

open CredentialValue (ofWire)

/-! ## Values -/

def UserValue.fields : List (Slot Shape) :=
  [⟨"username", .optional, .leaf⟩, ⟨"password", .required, .leaf⟩,
    ⟨"password_hash", .optional, .leaf⟩]

def CertificateValue.fields : List (Slot Shape) :=
  [⟨"certificate", .optional, .leaf⟩, ⟨"ca", .optional, .leaf⟩, ⟨"ca_name", .optional, .leaf⟩,
    ⟨"private_key", .optional, .leaf⟩]

def KeyPair.fields : List (Slot Shape) :=
  [⟨"public_key", .optional, .leaf⟩, ⟨"private_key", .optional, .leaf⟩,
    ⟨"public_key_fingerprint", .optional, .leaf⟩]

/-- The shape of the value next to a tag. What is in a JSON object is kept as it is. -/
def CredentialType.shape : CredentialType → Shape
  | .value | .password | .json => .leaf
  | .user => .record UserValue.fields
  | .certificate => .record CertificateValue.fields
  | .rsa | .ssh => .record KeyPair.fields

instance : UserValue.record.Follows UserValue.fields := by
  unfold UserValue.record
  infer_instance

instance : CertificateValue.Draft.record.Follows CertificateValue.fields := by
  unfold CertificateValue.Draft.record
  infer_instance

instance : KeyPair.record.Follows KeyPair.fields := by
  unfold KeyPair.record
  infer_instance

instance : Follows CertificateValue.decoder (.record CertificateValue.fields) :=
  Record.follows_ruled (by decide) _ _

instance : Follows RsaValue.decoder (.record KeyPair.fields) :=
  Record.follows_ruled (by decide) _ _

instance : Follows SshValue.decoder (.record KeyPair.fields) :=
  Record.follows_ruled (by decide) _ _

/-- A value is read by a decoder, or its tag is refused whatever it is. -/
theorem follows_ofTagged {α : Type} {d : Decoder α} {s : Shape} (h : Follows d s)
    (expected : CredentialType) (name : String) (found : CredentialType) :
    Follows (ofTagged expected name d found) s := by
  by_cases heq : expected = found
  · have hread : ofTagged expected name d found = fun j =>
        (d j).mapError fun e => .deserialization (.undecodable ("invalid " ++ name) e) :=
      funext fun _ => if_pos heq
    exact hread ▸ h.mapError _
  · have hread : ∀ j, ofTagged expected name d found j = mismatch (.wrongType expected found) :=
      fun _ => if_neg heq
    exact ⟨fun _ => by rw [hread, hread], fun _ => ⟨_, hread _⟩⟩

theorem CredentialType.follows_ofWire (t : CredentialType) :
    Follows (ofWire t : Json → Outcome t.Value) t.shape := by
  cases t with
  | value | password | json => exact follows_ofTagged inferInstance ..
  | user => exact follows_ofTagged (Record.follows_decoder (by decide) _) ..
  | certificate | rsa | ssh => exact follows_ofTagged inferInstance ..

/-- No field of a value has a default. -/
theorem CredentialType.not_nulled (t : CredentialType) (j : Json) : ¬ t.shape.Nulled j := by
  cases t with
  | value | password | json => exact nofun
  | user => exact Shape.not_nulled_record (by simp [UserValue.fields])
  | certificate => exact Shape.not_nulled_record (by simp [CertificateValue.fields])
  | rsa | ssh => exact Shape.not_nulled_record (by simp [KeyPair.fields])

/-- Whoever asks for a value, its tag says what it looks like. -/
theorem ValueKind.follows_ofWire (k : ValueKind) (t : CredentialType) :
    Follows (ofWire t : Json → Outcome k.Carrier) t.shape := by
  cases k with
  | typed u =>
    by_cases h : u = t
    · subst h
      exact u.follows_ofWire
    · have hread := CredentialType.ofWire_of_ne h
      exact ⟨fun _ => (hread _).trans (hread _).symm, fun _ => ⟨_, hread _⟩⟩
  | any =>
    have hread : (ofWire t : Json → Outcome AnyValue) = fun j =>
        (ofWire t j : Outcome t.Value).map (AnyValue.of t) := funext (AnyValue.read_eq t)
    exact hread ▸ t.follows_ofWire.map _

/-! ## Details -/

/-- The tag in the document of details. -/
def Json.tag? : Json → Option CredentialType
  | .object ms => (Members.get? ms "type").bind fun j => (CredentialType.decoder j).toOption
  | _ => none

namespace Details

/-- The fields of the envelope around a value. -/
def fields (value : Shape) : List (Slot Shape) :=
  [⟨"id", .optional, .leaf⟩, ⟨"name", .required, .leaf⟩, ⟨"type", .required, .leaf⟩,
    ⟨"value", .required, value⟩, ⟨"version_created_at", .optional, .leaf⟩,
    ⟨"transitional", .optional, .leaf⟩]

/-- The shape of the value in details, which the tag chooses; without one, no value is read. -/
def valueShape (j : Json) : Shape :=
  (j.tag?.map CredentialType.shape).getD .leaf

def shape : Shape :=
  .chosen fun j => .record (fields (valueShape j))

instance : record.Follows (fields .leaf) := by
  unfold record
  infer_instance

instance : Follows envelope (.record (fields .leaf)) :=
  Record.follows_decoder (by decide) _

variable {ms pre post : Members} {raw : Details Json} {k : ValueKind} {j j' : Json}

theorem tag?_of_envelope (h : envelope (.object ms) = .ok raw) :
    (Json.object ms).tag? = some raw.tag := by
  obtain ⟨_, -, hbuild⟩ := bind_eq_ok.1 h
  simp only [record, Record.build_seq_eq_ok, Record.build_map, map_eq_ok] at hbuild
  obtain ⟨_, _, ⟨_, _, ⟨_, _, ⟨_, tag, ⟨_, _, ⟨_, -, rfl⟩, -, rfl⟩, htag, rfl⟩, -, rfl⟩, -, rfl⟩,
    -, rfl⟩ := hbuild
  obtain ⟨j, hj, htag⟩ := Record.build_required_eq_ok.1 htag
  simp [Json.tag?, hj, htag, Except.toOption]

theorem ofDocument_congr (h : envelope j = envelope j') :
    (ofDocument j : Outcome (Details k.Carrier)) = ofDocument j' := by
  unfold ofDocument
  rw [h]

theorem not_nulled_valueShape (j v : Json) : ¬ (valueShape j).Nulled v := by
  unfold valueShape
  cases j.tag? with
  | none => exact nofun
  | some t => exact t.not_nulled v

/-- What is inserted in the value is not noticed where the value is read. -/
theorem ofDocument_around (hpre : pre.get? "value" = none)
    (hj : (valueShape (around pre post j)).Inserts j j') :
    (ofDocument (around pre post j) : Outcome (Details k.Carrier)) =
      ofDocument (around pre post j') := by
  have hsame := envelope_around hpre post j j
  have hother := envelope_around hpre post j j'
  cases henv : envelope (around pre post j) with
  | error e =>
    rw [henv, map_error] at hother
    rw [ofDocument_of_error henv, ofDocument_of_error hother]
  | ok raw =>
    rw [henv, map_ok] at hsame hother
    have hvalue : raw.value = j := congrArg Details.value (Except.ok.inj hsame)
    have htag : (around pre post j).tag? = some raw.tag := tag?_of_envelope henv
    rw [valueShape, htag] at hj
    rw [ofDocument_of_ok henv, ofDocument_of_ok hother, hvalue]
    have hwire : (ofWire raw.tag j : Outcome k.Carrier) = ofWire raw.tag j' :=
      (k.follows_ofWire raw.tag).inserts hj
    simp only [hwire]
    rfl

/-- What is inserted in the envelope, or in the value that it is around, is not noticed. -/
theorem ofDocument_inserts {s : Shape} (hs : valueShape j = s)
    (hj : (Shape.record (fields s)).Inserts j j') :
    (ofDocument j : Outcome (Details k.Carrier)) = ofDocument j' := by
  cases hj with
  | member hkey => exact ofDocument_congr (Follows.inserts (f := envelope) (.member hkey))
  | @null pre post _ f hf hp hnone =>
    -- the field is not that of the value, so it does not matter what is read as one
    have hf : f ∈ fields .leaf := by
      simp only [fields, List.mem_cons, List.not_mem_nil, or_false] at hf ⊢
      rcases hf with rfl | rfl | rfl | rfl | rfl | rfl
      all_goals simp at hp ⊢
    exact ofDocument_congr (Follows.inserts (f := envelope) (.null hf hp hnone))
  | @field pre post _ f v v' hf hpre hv =>
    simp only [fields, List.mem_cons, List.not_mem_nil, or_false] at hf
    rcases hf with rfl | rfl | rfl | rfl | rfl | rfl
    case inr.inr.inr.inl => exact ofDocument_around hpre (hs ▸ hv)
    -- no other field is read as a record
    all_goals cases hv

instance : Follows (ofDocument : Json → Outcome (Details k.Carrier)) shape where
  inserts hj := by
    cases hj with
    | chosen hj => exact ofDocument_inserts rfl hj
  nulled hj := by
    cases hj with
    | chosen hj =>
      refine absurd hj (Shape.not_nulled_record ?_)
      simp [fields, not_nulled_valueShape]

instance : Follows (decoder : Decoder (Details k.Carrier)) shape :=
  have h : Follows (ofDocument : Json → Outcome (Details k.Carrier)) shape := inferInstance
  (h.mapError Error.message).mapError DecodeError.refused

end Details

def History.shape : Shape :=
  .record [⟨"data", .required, .list Details.shape⟩]

instance {k : ValueKind} : Follows (History.decoder : Decoder (History k.Carrier)) History.shape :=
  Record.follows_decoder (by decide) _

/-! ## Permissions -/

def Permission.fields : List (Slot Shape) :=
  [⟨"actor", .required, .leaf⟩, ⟨"operations", .required, .list .leaf⟩]

def PermissionBatch.fields : List (Slot Shape) :=
  [⟨"credential_name", .required, .leaf⟩,
    ⟨"permissions", .defaulted, .list (.record Permission.fields)⟩]

def AddressedPermission.fields : List (Slot Shape) :=
  [⟨"uuid", .optional, .leaf⟩, ⟨"path", .required, .leaf⟩, ⟨"actor", .required, .leaf⟩,
    ⟨"operations", .required, .list .leaf⟩]

instance : Permission.record.Follows Permission.fields := by
  unfold Permission.record
  infer_instance

instance : Follows Permission.decoder (.record Permission.fields) :=
  Record.follows_ruled (by decide) _ _

instance : PermissionBatch.record.Follows PermissionBatch.fields := by
  unfold PermissionBatch.record
  infer_instance

instance : Follows PermissionBatch.decoder (.record PermissionBatch.fields) :=
  Record.follows_decoder (by decide) _

instance : AddressedPermission.record.Follows AddressedPermission.fields := by
  unfold AddressedPermission.record
  infer_instance

instance : Follows AddressedPermission.decoder (.record AddressedPermission.fields) :=
  Record.follows_ruled (by decide) _ _

/-! ## Listings -/

/-- The shape of a listing: a list under one key, which may be missing. -/
def Shape.listing (key : String) (items : Shape) : Shape :=
  .record [⟨key, .defaulted, .list items⟩]

theorem follows_listing {α : Type} {d : Decoder α} {s : Shape} [Follows d s]
    (record key : String) : Follows (listing record key d) (.listing key s) := by
  refine Record.follows_decoder ?_ record
  exact List.nodup_singleton key

def Summary.shape : Shape :=
  .record [⟨"name", .required, .leaf⟩, ⟨"version_created_at", .optional, .leaf⟩]

def StorePath.shape : Shape :=
  .record [⟨"path", .required, .leaf⟩]

def CertificateVersion.shape : Shape :=
  .record [⟨"id", .required, .leaf⟩, ⟨"expiry_date", .optional, .leaf⟩,
    ⟨"transitional", .defaulted, .leaf⟩, ⟨"certificate_authority", .defaulted, .leaf⟩,
    ⟨"self_signed", .defaulted, .leaf⟩]

def Certificate.shape : Shape :=
  .record [⟨"id", .required, .leaf⟩, ⟨"name", .required, .leaf⟩, ⟨"signed_by", .optional, .leaf⟩,
    ⟨"signs", .defaulted, .list .leaf⟩,
    ⟨"versions", .defaulted, .list CertificateVersion.shape⟩]

instance : Follows Summary.decoder Summary.shape :=
  Record.follows_decoder (by decide) _

instance : Follows StorePath.decoder StorePath.shape :=
  Record.follows_decoder (by decide) _

instance : Follows CertificateVersion.decoder CertificateVersion.shape :=
  Record.follows_decoder (by decide) _

instance : Follows Certificate.decoder Certificate.shape :=
  Record.follows_decoder (by decide) _

/-! ## All of them -/

/-- **Answers are read the same whatever is added to them.** One more member that is not declared,
in any object that is read as a record, or a null for an optional field that was missing, changes
neither what is read nor why the document is refused: so for the details of a credential and for the
value next to any tag, for permissions of both versions, and for the lists of credentials, paths and
certificates. A null for a list or a flag that has a default is refused wherever it stands. -/
theorem answers_follow :
    (∀ k : ValueKind,
      Follows (Details.ofDocument : Json → Outcome (Details k.Carrier)) Details.shape ∧
      Follows (Details.decoder : Decoder (Details k.Carrier)) Details.shape ∧
      (∀ t, Follows (ofWire t : Json → Outcome k.Carrier) t.shape) ∧
      Follows (History.decoder : Decoder (History k.Carrier)) History.shape) ∧
    Follows PermissionBatch.decoder (.record PermissionBatch.fields) ∧
    Follows AddressedPermission.decoder (.record AddressedPermission.fields) ∧
    Follows Summary.listDecoder (.listing "credentials" Summary.shape) ∧
    Follows StorePath.listDecoder (.listing "paths" StorePath.shape) ∧
    Follows Certificate.listDecoder (.listing "certificates" Certificate.shape) := by
  refine ⟨fun k => ⟨inferInstance, inferInstance, k.follows_ofWire, inferInstance⟩, inferInstance,
    inferInstance, ?_, ?_, ?_⟩
  · exact follows_listing _ _
  · exact follows_listing _ _
  · exact follows_listing _ _

example : Details.shape.Inserts
    (.object [("type", .text "user"), ("value", .object [("password", .text "p")])])
    (.object [("type", .text "user"), ("value", .object [("password", .text "p"),
      ("realm", .text "r")])]) := by
  have huser : (Shape.record UserValue.fields).Inserts (.object [("password", .text "p")])
      (.object [("password", .text "p"), ("realm", .text "r")]) :=
    @Shape.Inserts.member _ [("password", .text "p")] [] _ _ (by decide)
  refine .chosen (@Shape.Inserts.field _ [("type", .text "user")] []
    ⟨"value", .required, .record UserValue.fields⟩ _ _ ?_ rfl huser)
  exact .tail _ (.tail _ (.tail _ (.head _)))

end CredStore
