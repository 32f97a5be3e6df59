import CredStore.Details
import CredStore.Proofs.Json.Decode
import CredStore.Value.Kind

/-!
# Details of one type and of any type

A document is read in two ways: as details around a value of one type, and as details around a
value of whatever type the tag names. When the envelope names the type asked for, the first is the
second seen at that type (`ofDocument_any`), errors included; when it names another, the first
refuses the tag (`ofDocument_of_ne`). So the two agree on every document
(`ofDocument_typed_iff_any`).
-/

namespace CredStore.Details

open CredentialValue (ofWire)

variable {α β : Type} {j : Json} {raw : Details Json} {t : CredentialType}

theorem map_injective {f : α → β} (hf : ∀ {a b}, f a = f b → a = b) {d e : Details α}
    (h : d.map f = e.map f) : d = e := by
  obtain ⟨id, name, tag, v, createdAt, transitional⟩ := d
  obtain ⟨id', name', tag', w, createdAt', transitional'⟩ := e
  obtain ⟨rfl, rfl, rfl, hv, rfl, rfl⟩ := Details.mk.inj h
  cases hf hv
  rfl

/-! ## The envelope -/

section Envelope

variable [CredentialValue α]

theorem ofDocument_of_error {e : DecodeError} (h : envelope j = .error e) :
    (ofDocument j : Outcome (Details α)) =
      mismatch (.undecodable "invalid credential document" e) := by
  unfold ofDocument
  rw [h]

theorem ofDocument_of_ok (h : envelope j = .ok raw) :
    (ofDocument j : Outcome (Details α)) =
      (ofWire raw.tag raw.value).map fun v => raw.map fun _ => v := by
  unfold ofDocument
  rw [h]
  rfl

/-- What was read has an envelope, and its value is read with the tag of the envelope. -/
theorem ofDocument_eq_ok_iff {d : Details α} :
    ofDocument j = .ok d ↔ ∃ raw, envelope j = .ok raw ∧
      ∃ v, ofWire raw.tag raw.value = .ok v ∧ d = raw.map fun _ => v := by
  cases h : envelope j with
  | error e =>
    rw [ofDocument_of_error h]
    simp [mismatch]
  | ok raw =>
    rw [ofDocument_of_ok h, map_eq_ok]
    simp [eq_comm]

theorem isDeserialization_of_ofDocument {e : Error}
    (h : (ofDocument j : Outcome (Details α)) = .error e) : e.isDeserialization = true := by
  cases hraw : envelope j with
  | error why =>
    rw [ofDocument_of_error hraw] at h
    cases h
    rfl
  | ok raw =>
    rw [ofDocument_of_ok hraw, map_eq_error] at h
    exact CredentialValue.isDeserialization h

end Envelope

/-! ## One type and any type -/

/-- The tag of the envelope is the type asked for. -/
theorem ofDocument_any (h : envelope j = .ok raw) :
    (ofDocument j : Outcome (Details AnyValue)) =
      (ofDocument j : Outcome (Details raw.tag.Value)).map (map (AnyValue.of raw.tag)) := by
  have hread : (ofWire raw.tag raw.value : Outcome AnyValue) =
      (ofWire raw.tag raw.value : Outcome raw.tag.Value).map (AnyValue.of raw.tag) :=
    AnyValue.read_eq raw.tag raw.value
  rw [ofDocument_of_ok h, ofDocument_of_ok h, hread]
  cases (ofWire raw.tag raw.value : Outcome raw.tag.Value) with
  | ok v => rfl
  | error e => rfl

/-- The tag of the envelope is not the type asked for. -/
theorem ofDocument_of_ne (h : envelope j = .ok raw) (hne : t ≠ raw.tag) :
    (ofDocument j : Outcome (Details t.Value)) = mismatch (.wrongType t raw.tag) := by
  rw [ofDocument_of_ok h, CredentialType.ofWire_of_ne hne]
  rfl

theorem ofDocument_typed_iff {x : Details t.Value} :
    ofDocument j = .ok x ↔ ∃ y : Details AnyValue, ofDocument j = .ok y ∧ y.tag = t ∧
      y = x.map (AnyValue.of t) := by
  cases h : envelope j with
  | error e =>
    rw [ofDocument_of_error h, ofDocument_of_error h]
    simp [mismatch]
  | ok raw =>
    by_cases ht : t = raw.tag
    · subst ht
      rw [ofDocument_any h]
      refine ⟨fun hx => ?_, ?_⟩
      · obtain ⟨raw', hraw, v, -, hv⟩ := ofDocument_eq_ok_iff.1 hx
        obtain rfl : raw = raw' := Except.ok.inj (h.symm.trans hraw)
        exact ⟨_, by rw [hx]; rfl, by rw [hv]; rfl, rfl⟩
      · rintro ⟨y, hy, -, rfl⟩
        obtain ⟨x', hx', heq⟩ := map_eq_ok.1 hy
        rw [hx', map_injective AnyValue.of_injective heq]
    · rw [ofDocument_of_ne h ht]
      refine ⟨(fun hx => nomatch hx), ?_⟩
      rintro ⟨y, hy, hyt, -⟩
      obtain ⟨raw', hraw, v, -, rfl⟩ := ofDocument_eq_ok_iff.1 hy
      obtain rfl : raw = raw' := Except.ok.inj (h.symm.trans hraw)
      exact absurd hyt.symm ht

/-- The tag of details is the tag of the value that they hold. -/
theorem tag_eq_of_ofDocument {y : Details AnyValue} (h : ofDocument j = .ok y) :
    y.tag = y.value.tag := by
  obtain ⟨raw, -, v, hv, rfl⟩ := ofDocument_eq_ok_iff.1 h
  have hread : AnyValue.read raw.tag raw.value = .ok v := hv
  rw [AnyValue.read_eq] at hread
  obtain ⟨w, -, rfl⟩ := map_eq_ok.1 hread
  exact (AnyValue.tag_of raw.tag w).symm

/-- Of the seven types, the one that the tag names reads what is read at all. -/
theorem exists_typed_iff {y : Details AnyValue} (h : ofDocument j = .ok y) :
    (∃ x : Details t.Value, ofDocument j = .ok x) ↔ t = y.tag := by
  refine ⟨?_, ?_⟩
  · rintro ⟨x, hx⟩
    obtain ⟨y', hy', ht, -⟩ := ofDocument_typed_iff.1 hx
    cases h.symm.trans hy'
    exact ht.symm
  · rintro rfl
    obtain ⟨raw, hraw, v, -, rfl⟩ := ofDocument_eq_ok_iff.1 h
    rw [ofDocument_any hraw] at h
    obtain ⟨x, hx, -⟩ := map_eq_ok.1 h
    exact ⟨x, hx⟩

/-- **Reading at one type and at any type agree on every document.** They accept the same details;
when the envelope names the type asked for, or is no envelope, they fail with the same error; and
when it names another type, the value is not looked at. So what is read at all is read at exactly
one of the seven types, the one of its value. -/
theorem ofDocument_typed_iff_any (j : Json) :
    (∀ (t : CredentialType) (x : Details t.Value),
      ofDocument j = .ok x ↔ ∃ y : Details AnyValue, ofDocument j = .ok y ∧ y.tag = t ∧
        y = x.map (AnyValue.of t)) ∧
    (∀ (t : CredentialType) raw e, envelope j = .ok raw → raw.tag = t →
      ((ofDocument j : Outcome (Details t.Value)) = .error e ↔
        (ofDocument j : Outcome (Details AnyValue)) = .error e)) ∧
    (∀ (t : CredentialType) raw, envelope j = .ok raw → raw.tag ≠ t →
      (ofDocument j : Outcome (Details t.Value)) =
        .error (.deserialization (.wrongType t raw.tag))) ∧
    (∀ (t : CredentialType) why, envelope j = .error why → ∃ e, e.isDeserialization = true ∧
      (ofDocument j : Outcome (Details t.Value)) = .error e ∧
      (ofDocument j : Outcome (Details AnyValue)) = .error e) ∧
    (∀ y : Details AnyValue, ofDocument j = .ok y → y.tag = y.value.tag ∧
      ∀ t : CredentialType, (∃ x : Details t.Value, ofDocument j = .ok x) ↔ t = y.tag) := by
  refine ⟨fun t x => ofDocument_typed_iff, fun t raw e h ht => ?_, fun t raw h ht => ?_,
    fun t why h => ?_, fun y h => ⟨tag_eq_of_ofDocument h, fun t => exists_typed_iff h⟩⟩
  · subst ht
    rw [ofDocument_any h, map_eq_error]
  · exact ofDocument_of_ne h ht.symm
  · exact ⟨_, rfl, ofDocument_of_error h, ofDocument_of_error h⟩

end CredStore.Details
