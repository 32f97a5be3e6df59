import CredStore.Proofs.Edits
import CredStore.Proofs.Value.Grammar

/-!
# Values that are built part by part

Certificates and key pairs can be built by edits that set their parts. Each part has a key in
documents, so that edits also say an object: the one with the text that was set last under each
key (`BuiltType.written`). The value that is built is the one that is read from this object, it is
refused together with it, and it is written as it (`BuiltType.build_is_read`).
-/

namespace CredStore

open CredentialValue (ofWire toJson)

namespace CertificateValue.Edit

/-- The key of the part that is set. -/
def key : Edit → String
  | .certificate _ => "certificate"
  | .authority _ => "ca"
  | .authorityName _ => "ca_name"
  | .privateKey _ => "private_key"

def text : Edit → String
  | .certificate s | .authority s | .authorityName s => s
  | .privateKey s => s.exposed

end CertificateValue.Edit

namespace KeyPair.Edit

/-- The key of the part that is set. -/
def key : Edit → String
  | .publicKey _ => "public_key"
  | .privateKey _ => "private_key"

def text : Edit → String
  | .publicKey s => s
  | .privateKey s => s.exposed

end KeyPair.Edit

/-- The types of values that are built part by part. -/
inductive BuiltType where
  | certificate
  | rsa
  | ssh

namespace BuiltType

abbrev type : BuiltType → CredentialType
  | .certificate => .certificate
  | .rsa => .rsa
  | .ssh => .ssh

abbrev Edit : BuiltType → Type
  | .certificate => CertificateValue.Edit
  | .rsa | .ssh => KeyPair.Edit

def key : (b : BuiltType) → b.Edit → String
  | .certificate => CertificateValue.Edit.key
  | .rsa | .ssh => KeyPair.Edit.key

def text : (b : BuiltType) → b.Edit → String
  | .certificate => CertificateValue.Edit.text
  | .rsa | .ssh => KeyPair.Edit.text

/-- The keys of the parts of which a value must have one. -/
def needed : BuiltType → List String
  | .certificate => ["certificate", "ca", "private_key"]
  | .rsa | .ssh => ["public_key", "private_key"]

/-- The value with the parts that were set. -/
def build : (b : BuiltType) → List b.Edit → Outcome b.type.Value
  | .certificate, es => (es.foldl CertificateValue.Draft.edit {}).build
  | .rsa, es => RsaValue.build (es.foldl KeyPair.Draft.edit {})
  | .ssh, es => SshValue.build (es.foldl KeyPair.Draft.edit {})

variable {b : BuiltType} {es : List b.Edit} {k : String}

/-- The text that an edit sets under a key. -/
def sets (b : BuiltType) (k : String) (e : b.Edit) : Option String :=
  if b.key e = k then some (b.text e) else none

/-- The text that was set last under a key. -/
def last? (b : BuiltType) (es : List b.Edit) (k : String) : Option String :=
  (es.filterMap (b.sets k)).getLast?

/-- The keys that were set, in the order of their declaration, each with the last text. -/
def written (b : BuiltType) (es : List b.Edit) : Members :=
  b.type.keys.filterMap fun k => (b.last? es k).map fun s => (k, .text s)

theorem isSome_last_iff : (b.last? es k).isSome ↔ ∃ e ∈ es, b.key e = k := by
  rw [last?, Edits.isSome_last_iff]
  simp [sets]

/-! ## What edits leave -/

theorem key_mem_keys (b : BuiltType) (e : b.Edit) : b.key e ∈ b.type.keys := by
  cases b <;> cases e <;>
    simp [key, CertificateValue.Edit.key, KeyPair.Edit.key, CredentialType.keys]

theorem last?_eq_none (h : ∀ e, b.key e ≠ k) : b.last? es k = none := by
  rw [← Option.not_isSome_iff_eq_none, isSome_last_iff]
  rintro ⟨e, -, he⟩
  exact h e he

theorem last?_fingerprint {es : List (Edit .ssh)} :
    last? .ssh es "public_key_fingerprint" = none := by
  apply last?_eq_none
  intro e
  cases e <;> simp [key, KeyPair.Edit.key]

theorem last?_map {γ : Type} (of : String → γ) :
    ((es.filterMap fun e => (b.sets k e).map of).getLast?).or none = (b.last? es k).map of := by
  rw [Option.or_none, last?, ← List.getLast?_map, List.map_filterMap]

theorem edit_certificate (d : CertificateValue.Draft) (e : Edit .certificate) :
    (d.edit e).certificate = (sets .certificate "certificate" e).or d.certificate ∧
      (d.edit e).authority = (sets .certificate "ca" e).or d.authority ∧
      (d.edit e).authorityName = (sets .certificate "ca_name" e).or d.authorityName ∧
      (d.edit e).privateKey =
        ((sets .certificate "private_key" e).map Secret.mk).or d.privateKey := by
  cases e <;> exact ⟨rfl, rfl, rfl, rfl⟩

theorem foldl_certificate (es : List (Edit .certificate)) :
    es.foldl CertificateValue.Draft.edit {} =
      ⟨last? .certificate es "certificate", last? .certificate es "ca",
        last? .certificate es "ca_name",
        (last? .certificate es "private_key").map Secret.mk⟩ := by
  have hcertificate := Edits.foldl_last (fun d e => (edit_certificate d e).1) es {}
  have hauthority := Edits.foldl_last (fun d e => (edit_certificate d e).2.1) es {}
  have hname := Edits.foldl_last (fun d e => (edit_certificate d e).2.2.1) es {}
  have hprivate := Edits.foldl_last (fun d e => (edit_certificate d e).2.2.2) es {}
  rw [Option.or_none] at hcertificate hauthority hname
  rw [last?_map] at hprivate
  rw [last?, last?, last?, ← hcertificate, ← hauthority, ← hname, ← hprivate]

theorem edit_keyPair (d : KeyPair.Draft) (e : Edit .rsa) :
    (d.edit e).publicKey = (sets .rsa "public_key" e).or d.publicKey ∧
      (d.edit e).privateKey = ((sets .rsa "private_key" e).map Secret.mk).or d.privateKey := by
  cases e <;> exact ⟨rfl, rfl⟩

theorem foldl_keyPair (es : List (Edit .rsa)) :
    es.foldl KeyPair.Draft.edit {} =
      ⟨last? .rsa es "public_key", (last? .rsa es "private_key").map Secret.mk⟩ := by
  have hpublic := Edits.foldl_last (fun d e => (edit_keyPair d e).1) es {}
  have hprivate := Edits.foldl_last (fun d e => (edit_keyPair d e).2) es {}
  rw [Option.or_none] at hpublic
  rw [last?_map] at hprivate
  rw [last?, ← hpublic, ← hprivate]

/-! ## The object that was said -/

theorem get?_filterMap (f : String → Option String) (ks : List String) :
    Members.get? (ks.filterMap fun k => (f k).map fun s => (k, .text s)) k =
      if k ∈ ks then (f k).map Json.text else none := by
  induction ks with
  | nil => rfl
  | cons k' ks ih =>
    rw [List.filterMap_cons]
    by_cases hk : k = k'
    · subst hk
      cases hf : f k with
      | none => simp [ih, hf]
      | some s => simp
    · cases f k' <;> simp [ih, hk]

theorem mem_written {m : String × Json} (hm : m ∈ b.written es) : ∃ s, m.2 = .text s := by
  obtain ⟨k, -, hk⟩ := List.mem_filterMap.1 hm
  obtain ⟨s, -, rfl⟩ := Option.map_eq_some_iff.1 hk
  exact ⟨s, rfl⟩

theorem sorted_written :
    (Json.object (b.written es)).sorted = .object (Members.ofList (b.written es)) := by
  have hfixed : Json.sortedMembers (b.written es) = b.written es := by
    apply Json.sortedMembers_of_fixed
    intro m hm
    obtain ⟨s, hs⟩ := mem_written hm
    rw [hs]
    rfl
  rw [Json.sorted, hfixed]

theorem text?_written : Members.text? (.ofList (b.written es)) k = b.last? es k := by
  rw [Members.text?, Members.get?_ofList, written, ← List.filterMap_reverse, get?_filterMap]
  by_cases hk : k ∈ b.type.keys
  · rw [if_pos (List.mem_reverse.2 hk)]
    cases b.last? es k <;> rfl
  · have hnone : b.last? es k = none := last?_eq_none fun e he => hk (he ▸ b.key_mem_keys e)
    rw [if_neg fun h => hk (List.mem_reverse.1 h), hnone]
    rfl

theorem optionalText_written : Members.OptionalText (.ofList (b.written es)) k := by
  intro j hj
  exact .inr (mem_written (Members.mem_ofList hj))

theorem exists_text_written_iff :
    (∃ key ∈ b.needed, (Members.text? (.ofList (b.written es)) key).isSome) ↔
      ∃ key ∈ b.needed, ∃ e ∈ es, b.key e = key := by
  simp only [text?_written, isSome_last_iff]

/-- The object is that of a value when one of the parts is there that a value needs. -/
theorem grammar_written_iff : b.type.Grammar (.object (Members.ofList (b.written es))) ↔
    ∃ key ∈ b.needed, ∃ e ∈ es, b.key e = key := by
  rw [← exists_text_written_iff]
  cases b with
  | certificate | rsa | ssh =>
    constructor
    · rintro ⟨_, hms, -, hset⟩
      cases hms
      exact hset
    · intro hset
      exact ⟨_, rfl, fun _ _ => optionalText_written, hset⟩

/-! ## What is built -/

theorem build_certificate_iff {es : List (Edit .certificate)} {v : CertificateValue} :
    build .certificate es = .ok v ↔
      v.certificate = last? .certificate es "certificate" ∧
        v.authority = last? .certificate es "ca" ∧
        v.authorityName = last? .certificate es "ca_name" ∧
        v.privateKey = (last? .certificate es "private_key").map Secret.mk := by
  refine CertificateValue.Draft.build_eq_ok_iff.trans ?_
  rw [foldl_certificate, eq_comm, CertificateValue.Draft.mk.injEq]

theorem build_keyPair_iff {es : List (Edit .rsa)} {keys : KeyPair} :
    (es.foldl KeyPair.Draft.edit {}).build = .ok keys ↔
      keys.publicKey = last? .rsa es "public_key" ∧
        keys.privateKey = (last? .rsa es "private_key").map Secret.mk := by
  rw [KeyPair.Draft.build_eq_ok_iff, foldl_keyPair, eq_comm, KeyPair.Draft.mk.injEq]

theorem build_rsa_iff {es : List (Edit .rsa)} {v : RsaValue} :
    build .rsa es = .ok v ↔ v.keys.publicKey = last? .rsa es "public_key" ∧
      v.keys.privateKey = (last? .rsa es "private_key").map Secret.mk := by
  obtain ⟨keys⟩ := v
  refine map_eq_ok.trans ?_
  simp [build_keyPair_iff]

theorem build_ssh_iff {es : List (Edit .ssh)} {v : SshValue} :
    build .ssh es = .ok v ↔ v.keys.publicKey = last? .ssh es "public_key" ∧
      v.keys.privateKey = (last? .ssh es "private_key").map Secret.mk ∧ v.fingerprint = none := by
  obtain ⟨keys, fingerprint⟩ := v
  refine map_eq_ok.trans ?_
  simp only [build_keyPair_iff, SshValue.mk.injEq]
  constructor
  · rintro ⟨_, ⟨hpublic, hprivate⟩, rfl, rfl⟩
    exact ⟨hpublic, hprivate, rfl⟩
  · rintro ⟨hpublic, hprivate, rfl⟩
    exact ⟨keys, ⟨hpublic, hprivate⟩, rfl, rfl⟩

/-- What is built consists of what the edits say. -/
theorem build_eq_ok_iff {c : b.type.Value} :
    b.build es = .ok c ↔ b.type.Holds c (.object (Members.ofList (b.written es))) := by
  cases b with
  | certificate =>
    refine build_certificate_iff.trans ?_
    simp [CredentialType.Holds, Json.fields?, text?_written]
  | rsa =>
    refine build_rsa_iff.trans ?_
    simp [CredentialType.Holds, Json.fields?, text?_written]
  | ssh =>
    refine build_ssh_iff.trans ?_
    simp [CredentialType.Holds, Json.fields?, text?_written, last?_fingerprint]

theorem exists_build_iff :
    (∃ c, b.build es = .ok c) ↔ ∃ key ∈ b.needed, ∃ e ∈ es, b.key e = key := by
  constructor
  · rintro ⟨c, hc⟩
    -- A value has one of its parts by its type, and the part is a text of the object.
    have hholds := build_eq_ok_iff.1 hc
    rw [← exists_text_written_iff]
    cases b with
    | certificate =>
      obtain ⟨_, hms, hcertificate, hauthority, -, hprivate⟩ := hholds
      cases hms
      exact CredentialType.exists_text_of_certificate hcertificate hauthority hprivate
    | rsa =>
      obtain ⟨_, hms, hpublic, hprivate⟩ := hholds
      cases hms
      exact CredentialType.exists_text_of_keyPair hpublic hprivate
    | ssh =>
      obtain ⟨_, hms, hpublic, hprivate, -⟩ := hholds
      cases hms
      exact CredentialType.exists_text_of_keyPair hpublic hprivate
  · intro hset
    obtain ⟨c, hc⟩ := (grammar_written_iff.2 hset).exists_holds
    exact ⟨c, build_eq_ok_iff.2 hc⟩

theorem isInvalidArgument_build {e : Error} (h : b.build es = .error e) :
    e.isInvalidArgument = true := by
  cases b with
  | certificate => exact CertificateValue.Draft.isInvalidArgument_build h
  | rsa | ssh => exact KeyPair.Draft.isInvalidArgument_build (map_eq_error.1 h)

theorem filterMap_cons_text (f : String → Option String) (k : String) (ks : List String) :
    ((k :: ks).filterMap fun k => (f k).map fun s => (k, Json.text s)) =
      Json.member? k .text (f k) ++ ks.filterMap fun k => (f k).map fun s => (k, .text s) := by
  cases hf : f k with
  | none => simp [hf, Json.member?]
  | some s => simp [hf, Json.member?]

theorem member?_secret (o : Option String) :
    Json.member? "private_key" Secret.toJson (o.map Secret.mk) =
      Json.member? "private_key" .text o := by
  cases o <;> rfl

theorem toJson_keyPair {es : List (Edit .ssh)} {keys : KeyPair}
    (hpublic : keys.publicKey = last? .ssh es "public_key")
    (hprivate : keys.privateKey = (last? .ssh es "private_key").map Secret.mk) :
    keys.toJson = .object (written .ssh es) := by
  rw [KeyPair.toJson, hpublic, hprivate, member?_secret]
  simp [written, CredentialType.keys, filterMap_cons_text, last?_fingerprint, Json.member?]

/-- What is built is written as the object that the edits say. -/
theorem toJson_of_build {c : b.type.Value} (h : b.build es = .ok c) :
    toJson c = .object (b.written es) := by
  cases b with
  | certificate =>
    obtain ⟨hcertificate, hauthority, hname, hprivate⟩ := build_certificate_iff.1 h
    have hobject : toJson c = .object (Json.member? "certificate" .text c.certificate ++
        Json.member? "ca" .text c.authority ++ Json.member? "ca_name" .text c.authorityName ++
        Json.member? "private_key" Secret.toJson c.privateKey) := rfl
    rw [hobject, hcertificate, hauthority, hname, hprivate, member?_secret]
    simp [written, CredentialType.keys, filterMap_cons_text]
  | rsa =>
    obtain ⟨hpublic, hprivate⟩ := build_rsa_iff.1 h
    exact toJson_keyPair hpublic hprivate
  | ssh =>
    obtain ⟨hpublic, hprivate, -⟩ := build_ssh_iff.1 h
    exact toJson_keyPair hpublic hprivate

theorem keys_written (b : BuiltType) (es : List b.Edit) :
    (b.written es).keys = b.type.keys.filter (· ∈ es.map b.key) := by
  have hkey : ∀ k, ((b.last? es k).map fun s => (k, Json.text s)).map Prod.fst =
      if k ∈ es.map b.key then some k else none := by
    intro k
    have hset : (b.last? es k).isSome ↔ k ∈ es.map b.key := by
      rw [isSome_last_iff, List.mem_map]
    cases hlast : b.last? es k with
    | none => rw [if_neg fun h => absurd (hset.2 h) (by simp [hlast])]; rfl
    | some s => rw [if_pos (hset.1 (by simp [hlast]))]; rfl
  rw [Members.keys, written, List.map_filterMap, ← List.filterMap_eq_filter]
  congr 1
  funext k
  rw [hkey]
  simp [Option.guard]

/-- **What is built is what is read.** Edits build a value when one of the parts that it needs was
set, and then it is the value that is read from the texts that were set last, which are what is
written of it. -/
theorem build_is_read (b : BuiltType) (es : List b.Edit) :
    ((∃ c, b.build es = .ok c) ↔ ∃ key ∈ b.needed, ∃ e ∈ es, b.key e = key) ∧
    (∀ err, b.build es = .error err → err.isInvalidArgument = true) ∧
    (∀ c, b.build es = .ok c ↔ ofWire b.type (Json.object (b.written es)).sorted = .ok c) ∧
    (∀ c, b.build es = .ok c → toJson c = .object (b.written es)) ∧
    (b.written es).keys = b.type.keys.filter (· ∈ es.map b.key) := by
  refine ⟨exists_build_iff, fun _ => isInvalidArgument_build, ?_, fun _ => toJson_of_build,
    b.keys_written es⟩
  intro c
  rw [sorted_written, CredentialType.ofWire_eq_ok_iff, ← build_eq_ok_iff, grammar_written_iff,
    ← exists_build_iff]
  exact ⟨fun h => ⟨⟨c, h⟩, h⟩, And.right⟩

example : written .certificate [.authority "a", .privateKey ⟨""⟩, .authority "b"] =
    [("ca", .text "b"), ("private_key", .text "")] := by rfl

end BuiltType

end CredStore
