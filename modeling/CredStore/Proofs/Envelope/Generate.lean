import CredStore.Proofs.Envelope.Shape
import CredStore.Proofs.Parameters.Written

/-!
# Envelopes that ask for a credential to be generated

Reading parameters does not apply their rule, so parameters that break it can be at hand. No
envelope carries them: whatever the parameters come from, an envelope is built around them exactly
when they satisfy the rule of their kind, and its document gives them back
(`build_parameters`).
-/

namespace CredStore

/-! ## Rules -/

/-- A length is positive, and not every class of characters is excluded. -/
structure PasswordParameters.Rule (p : PasswordParameters) : Prop where
  length : ∀ n, p.length = some n → 0 < n.toNat
  alphabet : ¬ (p.excludeUpper = some true ∧ p.excludeLower = some true ∧
    p.excludeNumber = some true ∧ p.includeSpecial ≠ some true)

/-- There is a subject, there is a signer, and a duration is positive. -/
structure CertificateParameters.Rule (p : CertificateParameters) : Prop where
  subject : p.commonName ≠ none ∨ p.organization ≠ none ∨ p.organizationUnit ≠ none ∨
    p.locality ≠ none ∨ p.state ≠ none ∨ p.country ≠ none
  signer : p.authority ≠ none ∨ p.selfSign = some true ∨ p.isAuthority = some true
  duration : ∀ n, p.duration = some n → 0 < n.toNat

/-- The rule of each kind; key pairs have none to break. -/
def ParameterKind.Rule : (k : ParameterKind) → k.Carrier → Prop
  | .password, p => p.Rule
  | .user, p => p.password.Rule
  | .rsa, _ => True
  | .ssh, _ => True
  | .certificate, p => p.Rule

theorem positiveIfSet_eq_ok_iff {what : String} {n : Option UInt32} :
    positiveIfSet what n = .ok () ↔ ∀ m, n = some m → 0 < m.toNat := by
  unfold positiveIfSet
  cases n with
  | none => simp
  | some m =>
    by_cases h : m.toNat = 0
    · simp [h, refuse]
    · simp [h, Nat.pos_of_ne_zero h]

theorem PasswordParameters.excludesEveryClass_iff {p : PasswordParameters} :
    p.excludesEveryClass = true ↔ p.excludeUpper = some true ∧ p.excludeLower = some true ∧
      p.excludeNumber = some true ∧ p.includeSpecial ≠ some true := by
  simp [excludesEveryClass, and_assoc]

theorem PasswordParameters.validate_eq_ok_iff {p : PasswordParameters} :
    p.validate = .ok () ↔ p.Rule := by
  have hclasses : (if p.excludesEveryClass then refuse .everyClassExcluded else Except.ok ()) =
      (.ok () : Outcome Unit) ↔ ¬ p.excludesEveryClass = true := by
    split <;> simp [*, refuse]
  constructor
  · intro h
    obtain ⟨_, hlength, halphabet⟩ := bind_eq_ok.1 h
    exact ⟨positiveIfSet_eq_ok_iff.1 hlength,
      fun hall => hclasses.1 halphabet (excludesEveryClass_iff.2 hall)⟩
  · rintro ⟨hlength, halphabet⟩
    refine bind_eq_ok.2 ⟨(), positiveIfSet_eq_ok_iff.2 hlength, ?_⟩
    exact hclasses.2 fun hall => halphabet (excludesEveryClass_iff.1 hall)

/-- Parameters of passwords are built as they are, if they satisfy their rule. -/
theorem PasswordParameters.build_eq_ok_iff {p q : PasswordParameters} :
    p.build = .ok q ↔ p.Rule ∧ q = p := by
  unfold build
  rw [map_eq_ok]
  constructor
  · rintro ⟨_, hvalid, rfl⟩
    exact ⟨validate_eq_ok_iff.1 hvalid, rfl⟩
  · rintro ⟨hrule, rfl⟩
    exact ⟨(), validate_eq_ok_iff.2 hrule, rfl⟩

/-- Parameters of users are built around those of their password, by the same rule. -/
theorem UserParameters.build_eq_ok_iff {p : PasswordParameters} {q : UserParameters} :
    UserParameters.build p = .ok q ↔ p.Rule ∧ q = ⟨p⟩ := by
  unfold UserParameters.build
  rw [map_eq_ok]
  constructor
  · rintro ⟨p', hp', rfl⟩
    obtain ⟨hrule, rfl⟩ := PasswordParameters.build_eq_ok_iff.1 hp'
    exact ⟨hrule, rfl⟩
  · rintro ⟨hrule, rfl⟩
    exact ⟨p, PasswordParameters.build_eq_ok_iff.2 ⟨hrule, rfl⟩, rfl⟩

theorem CertificateParameters.hasSubject_iff {p : CertificateParameters} :
    p.hasSubject = true ↔ p.commonName ≠ none ∨ p.organization ≠ none ∨
      p.organizationUnit ≠ none ∨ p.locality ≠ none ∨ p.state ≠ none ∨ p.country ≠ none := by
  simp [hasSubject, subject, Option.isSome_iff_ne_none]

theorem CertificateParameters.hasSigner_iff {p : CertificateParameters} :
    p.hasSigner = true ↔
      p.authority ≠ none ∨ p.selfSign = some true ∨ p.isAuthority = some true := by
  simp [hasSigner, Option.isSome_iff_ne_none, or_assoc]

theorem CertificateParameters.validate_eq_ok_iff {p : CertificateParameters} :
    p.validate = .ok () ↔ p.Rule := by
  unfold validate
  constructor
  · intro h
    split at h
    · cases h
    · rename_i hsubject
      split at h
      · cases h
      · rename_i hsigner
        rw [Bool.not_eq_false] at hsubject hsigner
        exact ⟨hasSubject_iff.1 hsubject, hasSigner_iff.1 hsigner, positiveIfSet_eq_ok_iff.1 h⟩
  · rintro ⟨hsubject, hsigner, hduration⟩
    rw [if_neg (by simp [hasSubject_iff.2 hsubject]), if_neg (by simp [hasSigner_iff.2 hsigner])]
    exact positiveIfSet_eq_ok_iff.2 hduration

/-- What an envelope asks of parameters is the rule of their kind. -/
theorem ParameterKind.validate_eq_ok_iff (k : ParameterKind) (p : k.Carrier) :
    Payload.validate p = .ok () ↔ k.Rule p := by
  cases k with
  | password => exact PasswordParameters.validate_eq_ok_iff
  | user => exact PasswordParameters.validate_eq_ok_iff
  | rsa => exact ⟨fun _ => trivial, fun _ => rfl⟩
  | ssh => exact ⟨fun _ => trivial, fun _ => rfl⟩
  | certificate => exact CertificateParameters.validate_eq_ok_iff

/-! ## Envelopes -/

namespace Envelope

/-- Under `parameters` stands the document of the parameters. -/
theorem parameters_document {k : ParameterKind} {d : Draft k.Carrier} {e : Envelope k.Carrier}
    (h : d.build = .ok e) : ∃ ms : Members, e.document = .object ms ∧
      ms.get? "parameters" = some (Payload.toJson e.payload).sorted := by
  obtain ⟨ms, hms, hshape⟩ := shape_document (k := .parameters k) h
  obtain ⟨n, p, hd, rfl⟩ := Draft.build_eq_ok.1 h
  obtain ⟨q, hq, -, hget⟩ := hshape.payload
  obtain rfl : p = q := Option.some.inj (hd.payload.symm.trans hq)
  exact ⟨ms, hms, hget⟩

/-- **No envelope carries parameters that break their rule.** Whatever the parameters come from, an
envelope is built around them exactly when it has a name, they satisfy the rule of their kind, and
no permissions go with them. What stands under `parameters` in its document is read as the same
parameters. -/
theorem build_parameters (k : ParameterKind) (d : Draft k.Carrier) :
    ((∃ e, d.build = .ok e) ↔ d.name.isSome ∧ (∃ p, d.payload = some p ∧ k.Rule p) ∧
      d.permissions = []) ∧
    ∀ e, d.build = .ok e → d.payload = some e.payload ∧ k.Rule e.payload ∧
      ∃ ms : Members, e.document = .object ms ∧ ∃ j, ms.get? "parameters" = some j ∧
        k.decoder j = .ok e.payload := by
  have hgenerates : ¬ Payload.field k.Carrier = .value := by
    cases k <;> exact nofun
  refine ⟨⟨?_, ?_⟩, fun e h => ?_⟩
  · rintro ⟨e, h⟩
    obtain ⟨n, p, hd, -⟩ := Draft.build_eq_ok.1 h
    rw [hd.name]
    exact ⟨rfl, ⟨p, hd.payload, (k.validate_eq_ok_iff p).1 hd.valid⟩,
      hd.permitted.resolve_left hgenerates⟩
  · rintro ⟨hn, ⟨p, hp, hrule⟩, hnone⟩
    obtain ⟨n, hn⟩ := Option.isSome_iff_exists.1 hn
    exact ⟨_, Draft.build_eq_ok.2
      ⟨n, p, ⟨hn, hp, (k.validate_eq_ok_iff p).2 hrule, .inr hnone⟩, rfl⟩⟩
  · obtain ⟨ms, hms, hget⟩ := parameters_document h
    obtain ⟨n, p, hd, rfl⟩ := Draft.build_eq_ok.1 h
    exact ⟨hd.payload, (k.validate_eq_ok_iff p).1 hd.valid, ms, hms, _, hget, k.decoder_toJson p⟩

/-- Parameters without a signer can be read, and no envelope is built around them. -/
example : (ParameterKind.certificate.decoder (.object [("common_name", .text "a")])).toOption.map
    (fun p => (Draft.build ⟨some Name.root, some p, none, none, []⟩).toOption.isSome) =
      some false := by
  decide +kernel

end Envelope

end CredStore
