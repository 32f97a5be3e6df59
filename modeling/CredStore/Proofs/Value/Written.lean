import CredStore.Proofs.Json.Record
import CredStore.Value.Kind

/-!
# Values that were written

The document of a value leaves out what only the server may state: the hash of a user's password
and the fingerprint of an SSH key. `written` is the value without it, and reading the document of a
value gives exactly that (`ValueKind.ofWire_toJson`).
-/

namespace CredStore

/-- The user without the hash of the password. -/
def UserValue.written (v : UserValue) : UserValue :=
  { v with passwordHash := none }

/-- The key pair without the fingerprint. -/
def SshValue.written (v : SshValue) : SshValue :=
  { v with fingerprint := none }

/-- The value without what only the server may state. -/
def CredentialType.written : (t : CredentialType) → t.Value → t.Value
  | .user => UserValue.written
  | .ssh => SshValue.written
  | .value | .password | .json | .certificate | .rsa => id

/-- The value without what only the server may state. -/
def AnyValue.written : AnyValue → AnyValue
  | .user v => .user v.written
  | .ssh v => .ssh v.written
  | v => v

/-- The value without what only the server may state. -/
def ValueKind.written : (k : ValueKind) → k.Carrier → k.Carrier
  | .typed t => t.written
  | .any => AnyValue.written

open CredentialValue (ofWire tag toJson)

/-! ## Records -/

theorem Secret.decoder_toJson (s : Secret) : decoder s.toJson = .ok s := rfl

instance : Record.Lawful UserValue.record := by
  unfold UserValue.record
  infer_instance

instance : Record.Lawful KeyPair.record := by
  unfold KeyPair.record
  infer_instance

instance : Record.Lawful CertificateValue.Draft.record := by
  unfold CertificateValue.Draft.record
  infer_instance

namespace Record

variable {ms : Members} {i : Nat} {key : String}

theorem build_optional_text {o : Option String} (h : ms.get? key = o.map Json.text) :
    (optional key Decoder.text).build (.members ms) i = .ok o :=
  build_optional_of_written (fun _ _ => rfl) h

theorem build_optional_secret {o : Option Secret} (h : ms.get? key = o.map Secret.toJson) :
    (optional key Secret.decoder).build (.members ms) i = .ok o :=
  build_optional_of_written (fun _ _ => rfl) h

end Record

@[simp] theorem sorted_comp_text : Json.sorted ∘ Json.text = Json.text := rfl

@[simp] theorem sorted_comp_secret : Json.sorted ∘ Secret.toJson = Secret.toJson := rfl

theorem UserValue.decoder_toJson (v : UserValue) :
    UserValue.record.decoder "UserCredential" (toJson v).sorted = .ok v.written := by
  refine (Record.decoder_sorted_eq_ok _).2 ?_
  refine Record.build_seq_of (Record.build_seq_of (Record.build_map_of ?_) ?_) ?_
  · exact Record.build_optional_text (by simp)
  · refine Record.build_required_of ?_ v.password.decoder_toJson
    simp [Secret.toJson, Json.sorted]
  · exact Record.build_optional_text (by simp)

theorem KeyPair.decoder_toJson (k : KeyPair) :
    KeyPair.record.decoder "RawKeyPair" k.toJson.sorted =
      .ok ⟨k.publicKey, k.privateKey, none⟩ := by
  refine (Record.decoder_sorted_eq_ok _).2 ?_
  refine Record.build_seq_of (Record.build_seq_of (Record.build_map_of ?_) ?_) ?_
  · exact Record.build_optional_text (by simp)
  · exact Record.build_optional_secret (by simp)
  · exact Record.build_optional_text (by simp)

/-- The rule that a key pair keeps lets it be built again. -/
theorem KeyPair.build_keys (k : KeyPair) : Draft.build ⟨k.publicKey, k.privateKey⟩ = .ok k :=
  dif_pos k.someSet

theorem CertificateValue.decoder_toJson (v : CertificateValue) :
    CertificateValue.decoder (toJson v).sorted = .ok v := by
  refine Decoder.ruled_eq_ok.2 ⟨⟨v.certificate, v.authority, v.authorityName, v.privateKey⟩, ?_,
    dif_pos v.someSet⟩
  refine (Record.decoder_sorted_eq_ok _).2 ?_
  refine Record.build_seq_of (Record.build_seq_of (Record.build_seq_of
    (Record.build_map_of ?_) ?_) ?_) ?_
  · exact Record.build_optional_text (by simp)
  · exact Record.build_optional_text (by simp)
  · exact Record.build_optional_text (by simp)
  · exact Record.build_optional_secret (by simp)

/-! ## Kinds -/

theorem ofTagged_eq_ok {α : Type} {t u : CredentialType} {name : String} {d : Decoder α}
    {j : Json} {a : α} : ofTagged t name d u j = .ok a ↔ t = u ∧ d j = .ok a := by
  unfold ofTagged
  split
  · rename_i h
    simp [h, mapError_eq_ok]
  · rename_i h
    simp [h, mismatch]

theorem AnyValue.written_of (t : CredentialType) (v : t.Value) :
    (of t v).written = of t (t.written v) := by
  cases t <;> rfl

theorem AnyValue.toJson_of (t : CredentialType) (v : t.Value) :
    (of t v).toJson = CredentialValue.toJson v := by
  cases t <;> rfl

theorem CredentialType.ofWire_toJson (t : CredentialType) (v : t.Value) :
    ofWire t (CredentialValue.toJson v).sorted = .ok (t.written v) := by
  cases t with
  | value => rfl
  | password => rfl
  | user => exact ofTagged_eq_ok.2 ⟨rfl, v.decoder_toJson⟩
  | json =>
    refine ofTagged_eq_ok.2 ⟨rfl, map_eq_ok.2 ⟨v.members.toList, ?_, ?_⟩⟩
    · exact Decoder.members_eq_ok.2 v.members.isSorted
    · exact congrArg JsonValue.mk v.members.ofList_toList
  | certificate => exact ofTagged_eq_ok.2 ⟨rfl, v.decoder_toJson⟩
  | rsa =>
    refine ofTagged_eq_ok.2 ⟨rfl, Decoder.ruled_eq_ok.2 ⟨_, v.keys.decoder_toJson, ?_⟩⟩
    exact map_eq_ok.2 ⟨v.keys, v.keys.build_keys, rfl⟩
  | ssh =>
    refine ofTagged_eq_ok.2 ⟨rfl, Decoder.ruled_eq_ok.2 ⟨_, v.keys.decoder_toJson, ?_⟩⟩
    exact map_eq_ok.2 ⟨v.keys, v.keys.build_keys, rfl⟩

/-- **A value that was written is read back**, but for what only the server may state. -/
theorem ValueKind.ofWire_toJson (k : ValueKind) (v : k.Carrier) :
    ofWire (tag v) (toJson v).sorted = .ok (k.written v) := by
  cases k with
  | typed t =>
    have htag : tag v = t := by cases t <;> rfl
    rw [htag]
    exact t.ofWire_toJson v
  | any =>
    obtain ⟨w, hw⟩ := AnyValue.exists_of v
    have hread : AnyValue.read v.tag v.toJson.sorted = .ok v.written := by
      generalize v.tag = t at w hw
      subst hw
      rw [AnyValue.toJson_of, AnyValue.read_eq, t.ofWire_toJson, AnyValue.written_of]
      rfl
    exact hread

end CredStore
