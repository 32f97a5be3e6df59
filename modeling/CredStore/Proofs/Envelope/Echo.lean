import CredStore.Client.Call
import CredStore.Proofs.Details.Dispatch
import CredStore.Proofs.Envelope.Build
import CredStore.Proofs.Name.Path
import CredStore.Proofs.Value.Written

/-!
# Envelopes read back

The envelope that carries a value to the server is itself a document of details: the name, the tag
and the value stand where a reader looks for them, and the write policy and the permissions are
passed over (`envelope_document`). So a server that answers with what it was sent answers with the
details that were written (`write_echo`).
-/

namespace CredStore.Envelope

open CredentialValue (ofWire)

instance : Record.Lawful Details.record := by
  unfold Details.record
  infer_instance

instance (k : ValueKind) : Payload k.Carrier := .ofValue _

/-- The details that repeat an envelope: its name, the tag of its value, and the value without what
only the server may state. -/
def echo {k : ValueKind} (e : Envelope k.Carrier) : Details k.Carrier where
  id := none
  name := e.name
  tag := CredentialValue.tag e.payload
  value := k.written e.payload
  createdAt := none
  transitional := none

section Kinds

variable {k : ValueKind}

@[simp] theorem field_carrier : Payload.field k.Carrier = .value := rfl

@[simp] theorem payload_tag (v : k.Carrier) : Payload.tag v = CredentialValue.tag v := rfl

@[simp] theorem payload_toJson (v : k.Carrier) : Payload.toJson v = CredentialValue.toJson v := rfl

/-! ## Building -/

/-- A value with a name is all that an envelope needs. -/
theorem complete_iff {d : Draft k.Carrier} {n : Name} {v : k.Carrier} :
    d.Complete n v ↔ d.name = some n ∧ d.payload = some v :=
  ⟨fun h => ⟨h.name, h.payload⟩, fun ⟨hn, hv⟩ => ⟨hn, hv, rfl, .inl rfl⟩⟩

/-! ## Reading -/

theorem decoder_tag (t : CredentialType) : CredentialType.decoder t.toJson = .ok t := by
  cases t <;> rfl

/-- The document of an envelope is itself the envelope of details. -/
theorem envelope_document (e : Envelope k.Carrier) :
    Details.envelope e.document =
      .ok (e.echo.map fun _ => (CredentialValue.toJson e.payload).sorted) := by
  refine (Record.decoder_sorted_eq_ok _).2 ?_
  refine Record.build_seq_of (Record.build_seq_of (Record.build_seq_of (Record.build_seq_of
    (Record.build_seq_of (Record.build_map_of ?_) ?_) ?_) ?_) ?_) ?_
  · exact Record.build_optional_of_none (by simp [PayloadField.text])
  · refine Record.build_required_of ?_ e.name.decoder_toJson
    simp [PayloadField.text, Name.toJson, Json.sorted]
  · refine Record.build_required_of ?_ (decoder_tag (CredentialValue.tag e.payload))
    simp [PayloadField.text, CredentialType.toJson, Json.sorted]
  · refine Record.build_required_of ?_ rfl
    simp [PayloadField.text]
  · exact Record.build_optional_of_none (by simp [PayloadField.text])
  · exact Record.build_optional_of_none (by simp [PayloadField.text])

theorem ofDocument_document (e : Envelope k.Carrier) :
    Details.ofDocument e.document = .ok e.echo := by
  have hvalue : ofWire e.echo.tag (CredentialValue.toJson e.payload).sorted =
      .ok (k.written e.payload) := k.ofWire_toJson e.payload
  exact Details.ofDocument_eq_ok_iff.2 ⟨_, envelope_document e, _, hvalue, rfl⟩

end Kinds

/-- **What was written comes back.** A value of any kind with a name always makes an envelope,
whatever the write policy and the permissions; its document is read as the details that were
written; and so is the answer of a server that returns the body it was sent. -/
theorem write_echo (k : ValueKind) (d : Draft k.Carrier) :
    ((∃ e, d.build = .ok e) ↔ d.name.isSome ∧ d.payload.isSome) ∧
    ∀ e, d.build = .ok e → d.name = some e.name ∧ d.payload = some e.payload ∧
      Details.ofDocument e.document = .ok e.echo ∧
      ∀ x : Exchange, x.next = .ok (Client.Credentials.write e).request.body →
        ((Client.Call.write e).run x).1 = .ok e.echo := by
  refine ⟨⟨?_, ?_⟩, fun e h => ?_⟩
  · rintro ⟨e, h⟩
    obtain ⟨n, v, hd, -⟩ := Draft.build_eq_ok.1 h
    rw [hd.name, hd.payload]
    exact ⟨rfl, rfl⟩
  · rintro ⟨hn, hv⟩
    obtain ⟨n, hn⟩ := Option.isSome_iff_exists.1 hn
    obtain ⟨v, hv⟩ := Option.isSome_iff_exists.1 hv
    exact ⟨_, Draft.build_eq_ok.2 ⟨n, v, complete_iff.2 ⟨hn, hv⟩, rfl⟩⟩
  · obtain ⟨n, v, hd, rfl⟩ := Draft.build_eq_ok.1 h
    refine ⟨hd.name, hd.payload, ofDocument_document _, fun x hx => ?_⟩
    show x.next.bind _ = _
    rw [hx]
    exact ofDocument_document _

end CredStore.Envelope
