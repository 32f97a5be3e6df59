import CredStore.Certificate
import CredStore.Proofs.Envelope.Echo
import CredStore.Proofs.Instant.Text
import CredStore.Proofs.Json.Rewrite

/-!
# Answers that are written again

An answer says the same in many ways: unset fields as nulls, lists and flags left out, records as
lists, names without their slash, instants in any zone and spelling. Writing what was read of it
gives one of them, and reading that gives the same again, but for what only the server may state
of a value (`responses_restored`).
-/

namespace CredStore

open CredentialValue (ofWire)
open Decoder (Reads Restores)

/-! ## Values -/

/-- A value is read next to its own tag only. -/
theorem ValueKind.tag_of_ofWire (k : ValueKind) {t : CredentialType} {j : Json} {v : k.Carrier}
    (h : ofWire t j = .ok v) : CredentialValue.tag v = t := by
  cases k with
  | typed u =>
    have htag : CredentialValue.tag v = u := by cases u <;> rfl
    have hread : (ofWire t j : Outcome u.Value) = .ok v := h
    by_cases heq : u = t
    · rw [htag, heq]
    · rw [CredentialType.ofWire_of_ne heq] at hread
      cases hread
  | any =>
    have hread : AnyValue.read t j = .ok v := h
    rw [AnyValue.read_eq] at hread
    obtain ⟨w, -, rfl⟩ := map_eq_ok.1 hread
    exact AnyValue.tag_of t w

/-- What only the server may state is not written, so a value is written as without it. -/
theorem ValueKind.toJson_written (k : ValueKind) (v : k.Carrier) :
    CredentialValue.toJson (k.written v) = CredentialValue.toJson v := by
  cases k with
  | typed t => cases t <;> rfl
  | any => cases v <;> rfl

/-! ## Fields -/

theorem restores_text : Restores Decoder.text .text id :=
  Decoder.restores_id fun _ => rfl

theorem restores_bool : Restores Decoder.bool .bool id :=
  Decoder.restores_id fun _ => rfl

theorem restores_identifier {kind : IdKind} :
    Restores (Identifier.decoder : Decoder (Identifier kind)) Identifier.toJson id :=
  Decoder.restores_id fun _ => rfl

theorem restores_name : Restores Name.decoder Name.toJson id :=
  Decoder.restores_id Name.decoder_toJson

theorem Record.build_optional_instant {ms : Members} {i : Nat} {key : String} {o : Option Instant}
    (ho : ∀ t ∈ o, Instant.decoder.Reads t)
    (hget : ms.get? key = o.map (Json.sorted ∘ Instant.toJson)) :
    (Record.optional key Instant.decoder).build (.members ms) i = .ok o :=
  Record.build_optional_restored restores_instant ho (by simp [Instant.toJson, Json.sorted]) hget

/-! ## Details -/

namespace Details

theorem decoder_eq_ok {α : Type} [CredentialValue α] {j : Json} {d : Details α} :
    decoder j = .ok d ↔ ofDocument j = .ok d := by
  refine Decoder.ruled_eq_ok.trans ⟨?_, fun h => ⟨j, rfl, h⟩⟩
  rintro ⟨_, hj, h⟩
  cases hj
  exact h

variable {k : ValueKind} {d : Details k.Carrier}

theorem reads_createdAt (h : Reads decoder d) :
    ∀ t ∈ d.createdAt, Instant.decoder.Reads t := by
  obtain ⟨j, hj⟩ := h
  obtain ⟨raw, hraw, v, -, rfl⟩ := ofDocument_eq_ok_iff.1 (decoder_eq_ok.1 hj)
  obtain ⟨s, hs⟩ := Record.exists_build ⟨j, hraw⟩
  simp only [record, Record.build_seq_eq_ok, Record.build_map, map_eq_ok] at hs
  obtain ⟨_, _, ⟨_, _, ⟨_, _, ⟨_, _, ⟨_, _, ⟨_, -, rfl⟩, -, rfl⟩, -, rfl⟩, -, rfl⟩, hcreated, rfl⟩,
    -, rfl⟩ := hs
  exact Record.reads_of_optional hcreated

theorem tag_value (h : Reads decoder d) : CredentialValue.tag d.value = d.tag := by
  obtain ⟨j, hj⟩ := h
  obtain ⟨raw, -, v, hv, rfl⟩ := ofDocument_eq_ok_iff.1 (decoder_eq_ok.1 hj)
  exact k.tag_of_ofWire hv

theorem envelope_toJson (h : ∀ t ∈ d.createdAt, Instant.decoder.Reads t) :
    envelope d.toJson.sorted = .ok (d.map fun v => (CredentialValue.toJson v).sorted) := by
  refine (Record.decoder_sorted_eq_ok _).2 ?_
  refine Record.build_seq_of (Record.build_seq_of (Record.build_seq_of (Record.build_seq_of
    (Record.build_seq_of (Record.build_map_of ?_) ?_) ?_) ?_) ?_) ?_
  · exact Record.build_optional_restored restores_identifier (fun a _ => ⟨a.toJson, rfl⟩)
      (by simp [Identifier.toJson, Json.sorted]) (by simp)
  · refine Record.build_required_of ?_ d.name.decoder_toJson
    simp [Name.toJson, Json.sorted]
  · refine Record.build_required_of ?_ (Envelope.decoder_tag d.tag)
    simp [CredentialType.toJson, Json.sorted]
  · refine Record.build_required_of ?_ rfl
    simp
  · exact Record.build_optional_instant h (by simp)
  · exact Record.build_optional_restored restores_bool (fun a _ => ⟨.bool a, rfl⟩)
      (by simp [Json.sorted]) (by simp)

end Details

/-- **Details are read back from their document**, but for what only the server may state. -/
theorem restores_details (k : ValueKind) :
    Restores (Details.decoder : Decoder (Details k.Carrier)) Details.toJson
      (Details.map k.written) where
  decoder_toJson {d} hd := by
    have hvalue : ofWire d.tag (CredentialValue.toJson d.value).sorted =
        .ok (k.written d.value) := by
      rw [← Details.tag_value hd]
      exact k.ofWire_toJson d.value
    have henvelope := Details.envelope_toJson (Details.reads_createdAt hd)
    exact Details.decoder_eq_ok.2 (Details.ofDocument_eq_ok_iff.2 ⟨_, henvelope, _, hvalue, rfl⟩)
  toJson_kept {d} _ := by
    simp only [Details.toJson, Details.map, k.toJson_written]

/-- The history without what only the server may state. -/
def History.written {k : ValueKind} (h : History k.Carrier) : History k.Carrier :=
  ⟨h.versions.map (Details.map k.written)⟩

theorem History.reads_versions {k : ValueKind} {h : History k.Carrier} (hh : Reads decoder h) :
    ∀ d ∈ h.versions, Reads Details.decoder d := by
  obtain ⟨s, hs⟩ := Record.exists_build hh
  obtain ⟨_, hdata, rfl⟩ := map_eq_ok.1 hs
  exact Decoder.reads_of_list (Record.reads_of_required hdata)

theorem restores_history (k : ValueKind) :
    Restores (History.decoder : Decoder (History k.Carrier)) History.toJson History.written where
  decoder_toJson {h} hh := by
    have hlist := (restores_details k).list_toJson (History.reads_versions hh)
    refine (Record.decoder_sorted_eq_ok _).2 (Record.build_map_of ?_)
    exact Record.build_required_of (by simp) hlist
  toJson_kept {h} hh := by
    rw [History.toJson, History.written,
      (restores_details k).map_kept (History.reads_versions hh)]
    rfl

/-! ## Listings -/

theorem Summary.reads_createdAt {s : Summary} (h : Reads decoder s) :
    ∀ t ∈ s.createdAt, Instant.decoder.Reads t := by
  obtain ⟨_, hs⟩ := Record.exists_build h
  simp only [Record.build_seq_eq_ok, Record.build_map, map_eq_ok] at hs
  obtain ⟨_, _, ⟨_, -, rfl⟩, hcreated, rfl⟩ := hs
  exact Record.reads_of_optional hcreated

theorem restores_summary : Restores Summary.decoder Summary.toJson id where
  decoder_toJson {s} hs := by
    refine (Record.decoder_sorted_eq_ok _).2 (Record.build_seq_of (Record.build_map_of ?_) ?_)
    · exact Record.build_required_restored restores_name ⟨_, s.name.decoder_toJson⟩ (by simp)
    · exact Record.build_optional_instant (Summary.reads_createdAt hs) (by simp)
  toJson_kept _ := rfl

theorem restores_path : Restores StorePath.decoder StorePath.toJson id :=
  Decoder.restores_id fun p => by
    refine (Record.decoder_sorted_eq_ok _).2 (Record.build_map_of ?_)
    exact Record.build_required_restored restores_text ⟨.text p.path, rfl⟩ (by simp)

theorem restores_serverVersion : Restores ServerVersion.decoder ServerVersion.toJson id :=
  Decoder.restores_id fun v => by
    refine (Record.decoder_sorted_eq_ok _).2 (Record.build_map_of ?_)
    exact Record.build_required_restored restores_text ⟨.text v.version, rfl⟩ (by simp)

/-! ## Certificates -/

theorem CertificateVersion.reads_expiry {v : CertificateVersion} (h : Reads decoder v) :
    ∀ t ∈ v.expiry, Instant.decoder.Reads t := by
  obtain ⟨_, hs⟩ := Record.exists_build h
  simp only [Record.build_seq_eq_ok, Record.build_map, map_eq_ok] at hs
  obtain ⟨_, _, ⟨_, _, ⟨_, _, ⟨_, _, ⟨_, -, rfl⟩, hexpiry, rfl⟩, -, rfl⟩, -, rfl⟩, -, rfl⟩ := hs
  exact Record.reads_of_optional hexpiry

/-- The flags of a version are written even when they were left out. -/
theorem restores_certificateVersion :
    Restores CertificateVersion.decoder CertificateVersion.toJson id where
  decoder_toJson {v} hv := by
    refine (Record.decoder_sorted_eq_ok _).2 ?_
    refine Record.build_seq_of (Record.build_seq_of (Record.build_seq_of (Record.build_seq_of
      (Record.build_map_of ?_) ?_) ?_) ?_) ?_
    · exact Record.build_required_restored restores_identifier ⟨v.id.toJson, rfl⟩ (by simp)
    · exact Record.build_optional_instant (CertificateVersion.reads_expiry hv) (by simp)
    · exact Record.build_defaulted_restored restores_bool ⟨.bool v.transitional, rfl⟩ (by simp)
    · exact Record.build_defaulted_restored restores_bool ⟨.bool v.isAuthority, rfl⟩ (by simp)
    · exact Record.build_defaulted_restored restores_bool ⟨.bool v.selfSigned, rfl⟩ (by simp)
  toJson_kept _ := rfl

theorem Certificate.reads_versions {c : Certificate} (h : Reads decoder c) :
    ∀ v ∈ c.versions, Reads CertificateVersion.decoder v := by
  obtain ⟨_, hs⟩ := Record.exists_build h
  simp only [Record.build_seq_eq_ok, Record.build_map, map_eq_ok] at hs
  obtain ⟨_, versions, ⟨_, _, ⟨_, _, ⟨_, _, ⟨_, -, rfl⟩, -, rfl⟩, -, rfl⟩, -, rfl⟩, hversions,
    rfl⟩ := hs
  rcases Record.reads_of_defaulted hversions with rfl | hversions
  · exact fun _ => nofun
  · exact Decoder.reads_of_list hversions

theorem restores_certificate : Restores Certificate.decoder Certificate.toJson id where
  decoder_toJson {c} hc := by
    have hlist := restores_certificateVersion.list_toJson (Certificate.reads_versions hc)
    refine (Record.decoder_sorted_eq_ok _).2 ?_
    refine Record.build_seq_of (Record.build_seq_of (Record.build_seq_of (Record.build_seq_of
      (Record.build_map_of ?_) ?_) ?_) ?_) ?_
    · exact Record.build_required_restored restores_identifier ⟨c.id.toJson, rfl⟩ (by simp)
    · exact Record.build_required_restored restores_name ⟨_, c.name.decoder_toJson⟩ (by simp)
    · exact Record.build_optional_restored restores_text (fun s _ => ⟨.text s, rfl⟩)
        (by simp [Json.sorted]) (by simp)
    · have hsigns : Decoder.list Decoder.text (Json.texts c.signs).sorted = .ok c.signs := by
        have hread : ∀ s ∈ c.signs, Reads Decoder.text s := fun s _ => ⟨.text s, rfl⟩
        have hsigns := restores_text.list_toJson hread
        rwa [List.map_id] at hsigns
      exact Record.build_defaulted_eq_ok.2 (.inr ⟨_, by simp, hsigns⟩)
    · rw [List.map_id] at hlist
      exact Record.build_defaulted_eq_ok.2 (.inr ⟨_, by simp, hlist⟩)
  toJson_kept _ := rfl

/-! ## All of them -/

/-- **Answers are restored.** Whatever document an answer is read from, the document that is written
of it is read as the same answer, and what is written of that is the same document. Of the details
of a credential only the hash of a user's password and the fingerprint of an SSH key are lost. Each
instant that is read, from whatever text, is read back from its own. -/
theorem responses_restored :
    (∀ k : ValueKind,
      (∀ (j : Json) (d : Details k.Carrier),
        Details.decoder j = .ok d ↔ Details.ofDocument j = .ok d) ∧
      Restores (Details.decoder : Decoder (Details k.Carrier)) Details.toJson
        (Details.map k.written) ∧
      Restores (History.decoder : Decoder (History k.Carrier)) History.toJson History.written) ∧
    Restores Summary.listDecoder Summary.listToJson id ∧
    Restores StorePath.listDecoder StorePath.listToJson id ∧
    Restores Certificate.listDecoder Certificate.listToJson id ∧
    Restores (Decoder.list CertificateVersion.decoder)
      (fun vs => .list (vs.map CertificateVersion.toJson)) id ∧
    Restores Regenerated.decoder Regenerated.toJson id ∧
    Restores ServerVersion.decoder ServerVersion.toJson id ∧
    Restores Instant.decoder Instant.toJson id := by
  refine ⟨fun k => ⟨fun _ _ => Details.decoder_eq_ok, restores_details k, restores_history k⟩,
    ?_, ?_, ?_, ?_, ?_, restores_serverVersion, restores_instant⟩
  · exact List.map_id_fun ▸ restores_summary.listing _ _
  · exact List.map_id_fun ▸ restores_path.listing _ _
  · exact List.map_id_fun ▸ restores_certificate.listing _ _
  · exact List.map_id_fun ▸ restores_certificateVersion.list
  · exact List.map_id_fun ▸ restores_name.listing _ _

end CredStore
