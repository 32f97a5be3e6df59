import CredStore.Envelope.Kind
import CredStore.Proofs.Json.Rewrite

/-!
# Parameters that were written

The document of parameters has a member for each field that is set. Reading it gives exactly the
parameters that were written, whether or not they satisfy their rule
(`ParameterKind.decoder_toJson`). This rests on the fields alone: what each of them writes is read
as what it was and is never a null (`Decoder.ReadsBack`).
-/

namespace CredStore

/-! ## Fields -/

namespace Decoder

variable {α : Type} {d : Decoder α} {f : α → Json}

/-- What `f` writes is read by `d` as what it was, also where a null stands for none. -/
def ReadsBack (d : Decoder α) (f : α → Json) : Prop :=
  ∀ a, option d (f a).sorted = .ok (some a)

theorem ReadsBack.of_ne_null (h : ∀ a, d (f a).sorted = .ok a) (hnull : ∀ a, (f a).sorted ≠ .null) :
    ReadsBack d f :=
  fun a => option_eq_ok.2 (.inr ⟨hnull a, a, h a, rfl⟩)

theorem readsBack_text : ReadsBack text .text :=
  fun _ => rfl

theorem readsBack_bool : ReadsBack bool .bool :=
  fun _ => rfl

theorem readsBack_word : ReadsBack word .word := by
  refine .of_ne_null (fun n => ?_) nofun
  have hlt : (n.toNat : Int) < 4294967296 := by
    have hn := n.toNat_lt
    omega
  simp only [Json.word, Json.nat, Json.int, Json.sorted, word]
  rw [if_pos ⟨Int.natCast_nonneg _, hlt⟩, Int.toNat_natCast, UInt32.ofNat_toNat]

theorem readsBack_list (h : ∀ a, d (f a).sorted = .ok a) :
    ReadsBack (list d) fun as => .list (as.map f) := by
  refine .of_ne_null (fun as => list_toJson_eq_ok ?_) (fun as => ?_)
  · exact List.map_congr_left fun a _ => h a
  · rw [Json.sorted_list]
    exact nofun

theorem readsBack_texts : ReadsBack (list text) .texts :=
  readsBack_list fun _ => rfl

end Decoder

open Decoder

theorem KeyLength.readsBack : ReadsBack decoder toJson := by
  intro l
  cases l <;> rfl

theorem KeyUsage.decoder_toJson (u : KeyUsage) : decoder u.toJson.sorted = .ok u := by
  cases u <;> rfl

theorem ExtendedKeyUsage.decoder_toJson (u : ExtendedKeyUsage) :
    decoder u.toJson.sorted = .ok u := by
  cases u <;> rfl

theorem Record.build_optional_of_readsBack {α : Type} {ms : Members} {i : Nat} {key : String}
    {d : Decoder α} {f : α → Json} {o : Option α} (hd : ReadsBack d f)
    (h : ms.get? key = o.map (Json.sorted ∘ f)) :
    (optional key d).build (.members ms) i = .ok o :=
  build_optional_of_written (fun a _ => hd a) h

/-! ## Records -/

instance : Record.Lawful PasswordParameters.record := by
  unfold PasswordParameters.record
  infer_instance

instance : Record.Lawful RsaParameters.record := by
  unfold RsaParameters.record
  infer_instance

instance : Record.Lawful SshParameters.record := by
  unfold SshParameters.record
  infer_instance

instance : Record.Lawful CertificateParameters.record := by
  unfold CertificateParameters.record
  infer_instance

theorem PasswordParameters.decoder_toJson (p : PasswordParameters) :
    decoder p.toJson.sorted = .ok p := by
  refine (Record.decoder_sorted_eq_ok _).2 ?_
  refine Record.build_seq_of (Record.build_seq_of (Record.build_seq_of (Record.build_seq_of
    (Record.build_map_of ?_) ?_) ?_) ?_) ?_
  · exact Record.build_optional_of_readsBack readsBack_word (by simp)
  all_goals exact Record.build_optional_of_readsBack readsBack_bool (by simp)

theorem RsaParameters.decoder_toJson (p : RsaParameters) :
    record.decoder "RsaParameters" (GenerationParameters.toJson p).sorted = .ok p := by
  refine (Record.decoder_sorted_eq_ok _).2 (Record.build_map_of ?_)
  exact Record.build_optional_of_readsBack KeyLength.readsBack (by simp)

theorem SshParameters.decoder_toJson (p : SshParameters) :
    record.decoder "SshParameters" (GenerationParameters.toJson p).sorted = .ok p := by
  refine (Record.decoder_sorted_eq_ok _).2 (Record.build_seq_of (Record.build_map_of ?_) ?_)
  · exact Record.build_optional_of_readsBack KeyLength.readsBack (by simp)
  · exact Record.build_optional_of_readsBack readsBack_text (by simp)

theorem CertificateParameters.decoder_toJson (p : CertificateParameters) :
    record.decoder "CertificateParameters" p.toJson.sorted = .ok p := by
  refine (Record.decoder_sorted_eq_ok _).2 ?_
  refine Record.build_seq_of (Record.build_seq_of (Record.build_seq_of (Record.build_seq_of
    (Record.build_seq_of (Record.build_seq_of (Record.build_seq_of (Record.build_seq_of
      (Record.build_seq_of (Record.build_seq_of (Record.build_seq_of (Record.build_seq_of
        (Record.build_seq_of (Record.build_map_of ?keyLength) ?commonName) ?alternativeNames)
          ?organization) ?organizationUnit) ?locality) ?state) ?country) ?duration) ?authority)
            ?isAuthority) ?selfSign) ?keyUsage) ?extendedKeyUsage
  case keyLength => exact Record.build_optional_of_readsBack KeyLength.readsBack (by simp)
  case alternativeNames => exact Record.build_optional_of_readsBack readsBack_texts (by simp)
  case duration => exact Record.build_optional_of_readsBack readsBack_word (by simp)
  case isAuthority => exact Record.build_optional_of_readsBack readsBack_bool (by simp)
  case selfSign => exact Record.build_optional_of_readsBack readsBack_bool (by simp)
  case keyUsage =>
    exact Record.build_optional_of_readsBack (readsBack_list KeyUsage.decoder_toJson) (by simp)
  case extendedKeyUsage =>
    exact Record.build_optional_of_readsBack (readsBack_list ExtendedKeyUsage.decoder_toJson)
      (by simp)
  -- what is left are the texts
  all_goals exact Record.build_optional_of_readsBack readsBack_text (by simp)

/-! ## Kinds -/

namespace ParameterKind

/-- Reads the parameters of a kind, without applying their rule. -/
def decoder : (k : ParameterKind) → Decoder k.Carrier
  | .password => GenerationParameters.decoder
  | .user => GenerationParameters.decoder
  | .rsa => GenerationParameters.decoder
  | .ssh => GenerationParameters.decoder
  | .certificate => GenerationParameters.decoder

/-- **Parameters that were written are read back**, whether or not they satisfy their rule. -/
theorem decoder_toJson (k : ParameterKind) (p : k.Carrier) :
    k.decoder (Payload.toJson p).sorted = .ok p := by
  cases k with
  | password => exact PasswordParameters.decoder_toJson p
  | user => exact map_eq_ok.2 ⟨_, PasswordParameters.decoder_toJson _, rfl⟩
  | rsa => exact RsaParameters.decoder_toJson p
  | ssh => exact SshParameters.decoder_toJson p
  | certificate => exact CertificateParameters.decoder_toJson p

end ParameterKind

end CredStore
