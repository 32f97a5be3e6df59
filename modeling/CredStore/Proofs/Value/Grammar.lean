import CredStore.Proofs.Json.Fields
import CredStore.Proofs.Value.Written

/-!
# Which documents are values

`CredentialType.Grammar t j` says, without the readers, that `j` is the document of a value of type
`t`, and `CredentialType.Holds` what the value consists of. Each of the seven types reads exactly
the documents of its grammar (`CredentialType.ofWire_eq_ok_iff`), and so does a value whose type is
known from the tag only (`CredentialType.read_grammar`).
-/

namespace CredStore

open CredentialValue (ofWire)

/-! ## The grammar -/

namespace CredentialType

/-- The keys of the fields that make up a value; texts and arbitrary objects have none. -/
def keys : CredentialType → List String
  | .user => ["username", "password", "password_hash"]
  | .certificate => ["certificate", "ca", "ca_name", "private_key"]
  | .rsa | .ssh => ["public_key", "private_key", "public_key_fingerprint"]
  | .value | .password | .json => []

/-- `j` is the document of a value. -/
def Grammar : CredentialType → Json → Prop
  | .value, j | .password, j => ∃ s, j = .text s
  | .json, j => ∃ ms, j = .object ms
  | .user, j => ∃ ms, j.fields? (keys .user) = some ms ∧ ms.OptionalText "username" ∧
    ms.RequiredText "password" ∧ ms.OptionalText "password_hash"
  | .certificate, j => ∃ ms, j.fields? (keys .certificate) = some ms ∧
    (∀ key ∈ keys .certificate, ms.OptionalText key) ∧
    ∃ key ∈ ["certificate", "ca", "private_key"], (ms.text? key).isSome
  | .rsa, j | .ssh, j => ∃ ms, j.fields? (keys .rsa) = some ms ∧
    (∀ key ∈ keys .rsa, ms.OptionalText key) ∧
    ∃ key ∈ ["public_key", "private_key"], (ms.text? key).isSome

/-- The value consists of what stands in the document. An RSA key pair has no place for the
fingerprint. -/
def Holds : (t : CredentialType) → t.Value → Json → Prop
  | .value, v, j => j = .text v.value.exposed
  | .password, v, j => j = .text v.password.exposed
  | .json, v, j => j.sorted = .object v.members.toList
  | .user, v, j => ∃ ms, j.fields? (keys .user) = some ms ∧ v.username = ms.text? "username" ∧
    some v.password = (ms.text? "password").map Secret.mk ∧
    v.passwordHash = ms.text? "password_hash"
  | .certificate, v, j => ∃ ms, j.fields? (keys .certificate) = some ms ∧
    v.certificate = ms.text? "certificate" ∧ v.authority = ms.text? "ca" ∧
    v.authorityName = ms.text? "ca_name" ∧
    v.privateKey = (ms.text? "private_key").map Secret.mk
  | .rsa, v, j => ∃ ms, j.fields? (keys .rsa) = some ms ∧
    v.keys.publicKey = ms.text? "public_key" ∧
    v.keys.privateKey = (ms.text? "private_key").map Secret.mk
  | .ssh, v, j => ∃ ms, j.fields? (keys .ssh) = some ms ∧
    v.keys.publicKey = ms.text? "public_key" ∧
    v.keys.privateKey = (ms.text? "private_key").map Secret.mk ∧
    v.fingerprint = ms.text? "public_key_fingerprint"

end CredentialType

/-! ## Records -/

section Records

open Record

variable {ms : Members} {key : String}

theorem Secret.decoder_reads {j : Json} {s : Secret} :
    Secret.decoder j = .ok s ↔ ∃ s', j = .text s' ∧ Secret.mk s' = s := by
  simp [Secret.decoder, map_eq_ok, Decoder.text_eq_ok]

theorem Secret.decoder_eq_ok {j : Json} {s : Secret} :
    Secret.decoder j = .ok s ↔ j = .text s.exposed := by
  obtain ⟨s⟩ := s
  simp [Secret.decoder_reads]

theorem Record.accepts_text {o : Option String} : (optional key Decoder.text).Accepts ms o ↔
    ms.OptionalText key ∧ o = ms.text? key := by
  have hreads : ∀ {j s}, Decoder.text j = .ok s ↔ ∃ s', j = .text s' ∧ id s' = s := by
    simp [Decoder.text_eq_ok]
  rw [accepts_optional_text hreads, Option.map_id_fun, id_eq]

theorem Record.accepts_secret {o : Option Secret} : (optional key Secret.decoder).Accepts ms o ↔
    ms.OptionalText key ∧ o = (ms.text? key).map Secret.mk :=
  accepts_optional_text Secret.decoder_reads

instance : Declares UserValue.record (CredentialType.keys .user) := by
  unfold UserValue.record
  exact inferInstanceAs (Declares _ (["username"] ++ ["password"] ++ ["password_hash"]))

instance : Complete UserValue.record := by
  unfold UserValue.record
  infer_instance

instance : Declares CertificateValue.Draft.record (CredentialType.keys .certificate) := by
  unfold CertificateValue.Draft.record
  exact inferInstanceAs (Declares _ (["certificate"] ++ ["ca"] ++ ["ca_name"] ++ ["private_key"]))

instance : Complete CertificateValue.Draft.record := by
  unfold CertificateValue.Draft.record
  infer_instance

instance : Declares KeyPair.record (CredentialType.keys .rsa) := by
  unfold KeyPair.record
  exact inferInstanceAs
    (Declares _ (["public_key"] ++ ["private_key"] ++ ["public_key_fingerprint"]))

instance : Complete KeyPair.record := by
  unfold KeyPair.record
  infer_instance

theorem UserValue.accepts_iff {v : UserValue} : UserValue.record.Accepts ms v ↔
    (ms.OptionalText "username" ∧ ms.RequiredText "password" ∧ ms.OptionalText "password_hash") ∧
      v.username = ms.text? "username" ∧ some v.password = (ms.text? "password").map Secret.mk ∧
        v.passwordHash = ms.text? "password_hash" := by
  simp only [UserValue.record, accepts_seq, accepts_map, accepts_text,
    accepts_required_text Secret.decoder_reads]
  constructor
  · rintro ⟨_, _, ⟨_, _, ⟨_, ⟨hname, rfl⟩, rfl⟩, ⟨hpassword, hset⟩, rfl⟩, ⟨hhash, rfl⟩, rfl⟩
    exact ⟨⟨hname, hpassword, hhash⟩, rfl, hset, rfl⟩
  · rintro ⟨⟨hname, hpassword, hhash⟩, hsame, hset, hsame'⟩
    exact ⟨_, _, ⟨_, _, ⟨_, ⟨hname, hsame⟩, rfl⟩, ⟨hpassword, hset⟩, rfl⟩, ⟨hhash, hsame'⟩, rfl⟩

theorem CertificateValue.Draft.accepts_iff {d : CertificateValue.Draft} :
    CertificateValue.Draft.record.Accepts ms d ↔
      (∀ key ∈ CredentialType.keys .certificate, ms.OptionalText key) ∧
        d = ⟨ms.text? "certificate", ms.text? "ca", ms.text? "ca_name",
          (ms.text? "private_key").map Secret.mk⟩ := by
  simp only [CertificateValue.Draft.record, accepts_seq, accepts_map, accepts_text, accepts_secret]
  constructor
  · rintro ⟨_, _, ⟨_, _, ⟨_, _, ⟨_, ⟨hcert, rfl⟩, rfl⟩, ⟨hca, rfl⟩, rfl⟩, ⟨hname, rfl⟩, rfl⟩,
      ⟨hprivate, rfl⟩, rfl⟩
    exact ⟨by simp [CredentialType.keys, *], rfl⟩
  · rintro ⟨htexts, rfl⟩
    simp only [CredentialType.keys, List.forall_mem_cons] at htexts
    obtain ⟨hcert, hca, hname, hprivate, -⟩ := htexts
    exact ⟨_, _, ⟨_, _, ⟨_, _, ⟨_, ⟨hcert, rfl⟩, rfl⟩, ⟨hca, rfl⟩, rfl⟩, ⟨hname, rfl⟩, rfl⟩,
      ⟨hprivate, rfl⟩, rfl⟩

theorem KeyPair.accepts_iff {raw : KeyPair.Raw} : KeyPair.record.Accepts ms raw ↔
    (∀ key ∈ CredentialType.keys .rsa, ms.OptionalText key) ∧
      raw = ⟨ms.text? "public_key", (ms.text? "private_key").map Secret.mk,
        ms.text? "public_key_fingerprint"⟩ := by
  simp only [KeyPair.record, accepts_seq, accepts_map, accepts_text, accepts_secret]
  constructor
  · rintro ⟨_, _, ⟨_, _, ⟨_, ⟨hpublic, rfl⟩, rfl⟩, ⟨hprivate, rfl⟩, rfl⟩, ⟨hprint, rfl⟩, rfl⟩
    exact ⟨by simp [CredentialType.keys, *], rfl⟩
  · rintro ⟨htexts, rfl⟩
    simp only [CredentialType.keys, List.forall_mem_cons] at htexts
    obtain ⟨hpublic, hprivate, hprint, -⟩ := htexts
    exact ⟨_, _, ⟨_, _, ⟨_, ⟨hpublic, rfl⟩, rfl⟩, ⟨hprivate, rfl⟩, rfl⟩, ⟨hprint, rfl⟩, rfl⟩

end Records

/-! ## Drafts -/

namespace CertificateValue.Draft

variable {d : Draft} {v : CertificateValue}

theorem build_eq_ok_iff : d.build = .ok v ↔
    d = ⟨v.certificate, v.authority, v.authorityName, v.privateKey⟩ := by
  constructor
  · intro h
    unfold build at h
    split at h
    · cases h
      rfl
    · cases h
  · rintro rfl
    exact dif_pos v.someSet

theorem isInvalidArgument_build {e : Error} (h : d.build = .error e) :
    e.isInvalidArgument = true := by
  unfold build at h
  split at h
  · cases h
  · cases h
    rfl

end CertificateValue.Draft

namespace KeyPair.Draft

variable {d : Draft} {k : KeyPair}

theorem build_eq_ok_iff : d.build = .ok k ↔ d = ⟨k.publicKey, k.privateKey⟩ := by
  constructor
  · intro h
    unfold build at h
    split at h
    · cases h
      rfl
    · cases h
  · rintro rfl
    exact k.build_keys

theorem isInvalidArgument_build {e : Error} (h : d.build = .error e) :
    e.isInvalidArgument = true := by
  unfold build at h
  split at h
  · cases h
  · cases h
    rfl

end KeyPair.Draft

/-! ## Values -/

namespace CredentialType

variable {j : Json} {ms : Members}

/-- What is demanded of the members and what they hold are about the same members. -/
theorem exists_members_iff {o : Option Members} {p q : Members → Prop} :
    (∃ ms, o = some ms ∧ p ms ∧ q ms) ↔
      (∃ ms, o = some ms ∧ p ms) ∧ ∃ ms, o = some ms ∧ q ms := by
  cases o <;> simp

/-- The parts of a certificate are texts under their keys, and so one of these keys holds a text. -/
theorem exists_text_of_certificate {v : CertificateValue}
    (hcertificate : v.certificate = ms.text? "certificate")
    (hauthority : v.authority = ms.text? "ca")
    (hprivate : v.privateKey = (ms.text? "private_key").map Secret.mk) :
    ∃ key ∈ ["certificate", "ca", "private_key"], (ms.text? key).isSome := by
  have hset := v.someSet
  rw [hcertificate, hauthority, hprivate, Option.isSome_map] at hset
  simpa using hset

theorem exists_text_of_keyPair {k : KeyPair} (hpublic : k.publicKey = ms.text? "public_key")
    (hprivate : k.privateKey = (ms.text? "private_key").map Secret.mk) :
    ∃ key ∈ ["public_key", "private_key"], (ms.text? key).isSome := by
  have hset := k.someSet
  rw [hpublic, hprivate, Option.isSome_map] at hset
  simpa using hset

theorem user_eq_ok_iff {v : UserValue} :
    ofWire .user j = .ok v ↔ Grammar .user j ∧ Holds .user v j := by
  refine ofTagged_eq_ok.trans ((and_iff_right rfl).trans ?_)
  rw [Record.decoder_eq_ok_iff (by decide)]
  simp only [UserValue.accepts_iff]
  exact exists_members_iff

theorem certificate_eq_ok_iff {v : CertificateValue} :
    ofWire .certificate j = .ok v ↔ Grammar .certificate j ∧ Holds .certificate v j := by
  refine ofTagged_eq_ok.trans ((and_iff_right rfl).trans ?_)
  refine Iff.trans ?_ exists_members_iff
  simp only [CertificateValue.decoder, Decoder.ruled_eq_ok, CertificateValue.Draft.build_eq_ok_iff,
    exists_eq_right, Record.decoder_eq_ok_iff (by decide : (keys .certificate).Nodup),
    CertificateValue.Draft.accepts_iff, CertificateValue.Draft.mk.injEq, and_assoc]
  refine exists_congr fun ms => and_congr_right fun _ => and_congr_right fun _ => ?_
  exact ⟨fun h => ⟨exists_text_of_certificate h.1 h.2.1 h.2.2.2, h⟩, And.right⟩

/-- The keys of a key pair are those of the document, and `p` is about its fingerprint. -/
theorem keyPair_eq_ok_iff {name : String} {k : KeyPair} {p : Option String → Prop} :
    (∃ raw, KeyPair.record.decoder name j = .ok raw ∧ KeyPair.ofRaw raw = .ok k ∧
        p raw.fingerprint) ↔
      (∃ ms, j.fields? (keys .rsa) = some ms ∧ (∀ key ∈ keys .rsa, ms.OptionalText key) ∧
        ∃ key ∈ ["public_key", "private_key"], (ms.text? key).isSome) ∧
      ∃ ms, j.fields? (keys .rsa) = some ms ∧ k.publicKey = ms.text? "public_key" ∧
        k.privateKey = (ms.text? "private_key").map Secret.mk ∧
          p (ms.text? "public_key_fingerprint") := by
  simp only [Record.decoder_eq_ok_iff (by decide : (keys .rsa).Nodup), KeyPair.accepts_iff,
    KeyPair.ofRaw, KeyPair.Draft.build_eq_ok_iff, KeyPair.Draft.mk.injEq]
  refine Iff.trans ?_ exists_members_iff
  constructor
  · rintro ⟨_, ⟨ms, hms, htexts, rfl⟩, ⟨hpublic, hprivate⟩, hp⟩
    exact ⟨ms, hms, ⟨htexts, exists_text_of_keyPair hpublic.symm hprivate.symm⟩,
      hpublic.symm, hprivate.symm, hp⟩
  · rintro ⟨ms, hms, ⟨htexts, -⟩, hpublic, hprivate, hp⟩
    exact ⟨_, ⟨ms, hms, htexts, rfl⟩, ⟨hpublic.symm, hprivate.symm⟩, hp⟩

theorem rsa_eq_ok_iff {v : RsaValue} :
    ofWire .rsa j = .ok v ↔ Grammar .rsa j ∧ Holds .rsa v j := by
  have hread : ofWire .rsa j = .ok v ↔ ∃ raw, KeyPair.record.decoder "RawKeyPair" j = .ok raw ∧
      KeyPair.ofRaw raw = .ok v.keys ∧ True := by
    refine ofTagged_eq_ok.trans ((and_iff_right rfl).trans ?_)
    obtain ⟨k⟩ := v
    simp [RsaValue.decoder, Decoder.ruled_eq_ok, map_eq_ok]
  rw [hread, keyPair_eq_ok_iff (p := fun _ => True)]
  simp only [and_true]
  exact Iff.rfl

theorem ssh_eq_ok_iff {v : SshValue} :
    ofWire .ssh j = .ok v ↔ Grammar .ssh j ∧ Holds .ssh v j := by
  have hread : ofWire .ssh j = .ok v ↔ ∃ raw, KeyPair.record.decoder "RawKeyPair" j = .ok raw ∧
      KeyPair.ofRaw raw = .ok v.keys ∧ v.fingerprint = raw.fingerprint := by
    refine ofTagged_eq_ok.trans ((and_iff_right rfl).trans ?_)
    obtain ⟨k, fingerprint⟩ := v
    simp only [SshValue.decoder, Decoder.ruled_eq_ok, map_eq_ok, SshValue.mk.injEq]
    constructor
    · rintro ⟨raw, hraw, _, hk, rfl, rfl⟩
      exact ⟨raw, hraw, hk, rfl⟩
    · rintro ⟨raw, hraw, hk, rfl⟩
      exact ⟨raw, hraw, k, hk, rfl, rfl⟩
  exact hread.trans keyPair_eq_ok_iff

theorem json_eq_ok_iff {v : JsonValue} :
    ofWire .json j = .ok v ↔ Grammar .json j ∧ Holds .json v j := by
  refine ofTagged_eq_ok.trans ((and_iff_right rfl).trans ?_)
  cases j with
  | object ms =>
    have hsame : (⟨.ofList ms⟩ : JsonValue) = v ↔
        (Json.object ms).sorted = .object v.members.toList := by
      constructor
      · rintro rfl
        rfl
      · intro h
        obtain ⟨o, ho⟩ := v
        have ho' : Members.ofList (Json.sortedMembers ms) = o := Json.object.inj h
        subst ho'
        rfl
    simp [Decoder.members, hsame, Grammar, Holds]
  | _ => simp [Decoder.members, Grammar]

/-- **What a value is read from**, and what it consists of. -/
theorem ofWire_eq_ok_iff (t : CredentialType) {v : t.Value} :
    ofWire t j = .ok v ↔ t.Grammar j ∧ t.Holds v j := by
  cases t with
  | value =>
    refine ofTagged_eq_ok.trans ((and_iff_right rfl).trans ?_)
    obtain ⟨s⟩ := v
    simp only [map_eq_ok, Secret.decoder_eq_ok, PlainValue.mk.injEq, exists_eq_right]
    exact (and_iff_right_of_imp fun h => ⟨s.exposed, h⟩).symm
  | password =>
    refine ofTagged_eq_ok.trans ((and_iff_right rfl).trans ?_)
    obtain ⟨s⟩ := v
    simp only [map_eq_ok, Secret.decoder_eq_ok, PasswordValue.mk.injEq, exists_eq_right]
    exact (and_iff_right_of_imp fun h => ⟨s.exposed, h⟩).symm
  | user => exact user_eq_ok_iff
  | json => exact json_eq_ok_iff
  | certificate => exact certificate_eq_ok_iff
  | rsa => exact rsa_eq_ok_iff
  | ssh => exact ssh_eq_ok_iff

/-- A value stands in every document of a value. -/
theorem Grammar.exists_holds {t : CredentialType} (h : t.Grammar j) :
    ∃ v : t.Value, t.Holds v j := by
  cases t with
  | value | password =>
    obtain ⟨s, rfl⟩ := h
    exact ⟨⟨⟨s⟩⟩, rfl⟩
  | json =>
    obtain ⟨ms, rfl⟩ := h
    exact ⟨⟨.ofList ms⟩, rfl⟩
  | user =>
    obtain ⟨ms, hms, -, hpassword, -⟩ := h
    obtain ⟨s, hs⟩ := hpassword.exists_text?
    exact ⟨⟨ms.text? "username", ⟨s⟩, ms.text? "password_hash"⟩, ms, hms, rfl, by simp [hs], rfl⟩
  | certificate =>
    obtain ⟨ms, hms, -, hset⟩ := h
    refine ⟨⟨ms.text? "certificate", ms.text? "ca", ms.text? "ca_name",
      (ms.text? "private_key").map Secret.mk, ?_⟩, ms, hms, rfl, rfl, rfl, rfl⟩
    simpa using hset
  | rsa =>
    obtain ⟨ms, hms, -, hset⟩ := h
    refine ⟨⟨ms.text? "public_key", (ms.text? "private_key").map Secret.mk, ?_⟩, ms, hms, rfl, rfl⟩
    simpa using hset
  | ssh =>
    obtain ⟨ms, hms, -, hset⟩ := h
    refine ⟨⟨⟨ms.text? "public_key", (ms.text? "private_key").map Secret.mk, ?_⟩,
      ms.text? "public_key_fingerprint"⟩, ms, hms, rfl, rfl, rfl⟩
    simpa using hset

/-- Only a JSON object keeps what stands under other keys; texts are no objects at all. -/
theorem ofWire_ignores {t : CredentialType} (ht : t ≠ .json) {k : String} (hk : k ∉ t.keys)
    (pre post : Members) (j : Json) :
    (ofWire t (.object (pre ++ (k, j) :: post)) : Outcome t.Value) =
      ofWire t (.object (pre ++ post)) := by
  have hread : ∀ {α : Type} {name : String} {d : Decoder α},
      d (.object (pre ++ (k, j) :: post)) = d (.object (pre ++ post)) →
        ofTagged t name d t (.object (pre ++ (k, j) :: post)) =
          ofTagged t name d t (.object (pre ++ post)) := by
    intro _ _ _ h
    rw [ofTagged, ofTagged, h]
  cases t with
  | value | password => rfl
  | json => exact absurd rfl ht
  | user => exact hread (Record.decoder_ignores hk ..)
  | certificate => exact hread (Decoder.ruled_congr (Record.decoder_ignores hk ..))
  | rsa | ssh => exact hread (Decoder.ruled_congr (Record.decoder_ignores hk ..))

/-- **A value of any type is read from exactly the documents of its grammar.** It consists of what
stands there, whatever is refused is refused as a document, and keys that a value does not have
change nothing. -/
theorem read_grammar (t : CredentialType) (j : Json) :
    ((∃ a, AnyValue.read t j = .ok a) ↔ t.Grammar j) ∧
    (∀ a, AnyValue.read t j = .ok a ↔ t.Grammar j ∧ ∃ v : t.Value, a = .of t v ∧ t.Holds v j) ∧
    (∀ e, AnyValue.read t j = .error e → e.isDeserialization = true) ∧
    (t ≠ .json → ∀ k ∉ t.keys, ∀ pre post x, AnyValue.read t (.object (pre ++ (k, x) :: post)) =
      AnyValue.read t (.object (pre ++ post))) := by
  have hread : ∀ a, AnyValue.read t j = .ok a ↔
      t.Grammar j ∧ ∃ v : t.Value, a = .of t v ∧ t.Holds v j := by
    intro a
    rw [AnyValue.read_eq, map_eq_ok]
    constructor
    · rintro ⟨v, hv, rfl⟩
      obtain ⟨hgrammar, hholds⟩ := t.ofWire_eq_ok_iff.1 hv
      exact ⟨hgrammar, v, rfl, hholds⟩
    · rintro ⟨hgrammar, v, rfl, hholds⟩
      exact ⟨v, t.ofWire_eq_ok_iff.2 ⟨hgrammar, hholds⟩, rfl⟩
  refine ⟨⟨?_, ?_⟩, hread, fun e => AnyValue.isDeserialization_of_read, ?_⟩
  · rintro ⟨a, ha⟩
    exact ((hread a).1 ha).1
  · intro hgrammar
    obtain ⟨v, hv⟩ := hgrammar.exists_holds
    exact ⟨.of t v, (hread _).2 ⟨hgrammar, v, rfl, hv⟩⟩
  · intro ht k hk pre post x
    rw [AnyValue.read_eq, AnyValue.read_eq, ofWire_ignores ht hk]

example : AnyValue.read .certificate (.list [.null, .text "ca", .null, .null]) =
    AnyValue.read .certificate (.object [("ca", .text "ca"), ("serial", .null)]) := by rfl

end CredentialType

end CredStore
