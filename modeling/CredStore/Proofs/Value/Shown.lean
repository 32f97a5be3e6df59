import CredStore.Proofs.Envelope.Echo
import CredStore.Proofs.Json.Record

/-!
# What a value shows

Two values of a type are `Alike` when they differ in the contents of their secrets at most; of a
json credential all that stands under its keys is secret. A value shows that much and no more: what
is inspected of two values is the same exactly when they are alike (`ValueKind.inspect_eq_iff`), and
so it is for an envelope or details around them.
-/

namespace CredStore

/-! ## Keys -/

namespace SortedMembers

theorem rising (o : SortedMembers) : o.toList.Rising := by
  have h : Members.ofList (Json.sortedMembers o.toList) = o.toList := Json.object.inj o.isSorted
  rw [← h]
  exact Members.rising_ofList _

/-- The order of the keys says nothing of how they were written. -/
theorem keys_eq_iff (o p : SortedMembers) :
    o.keys = p.keys ↔ ∀ key, key ∈ o.keys ↔ key ∈ p.keys := by
  have hkeys : ∀ o : SortedMembers, o.keys.Pairwise (· < ·) := fun o =>
    List.pairwise_map.2 o.rising
  refine ⟨fun h key => by rw [h], fun h => ?_⟩
  have hperm : o.keys.Perm p.keys :=
    (List.perm_ext_iff_of_nodup o.rising.nodup_keys p.rising.nodup_keys).2 h
  exact hperm.eq_of_pairwise (fun a b _ _ hab hba => absurd hba (String.lt_asymm hab)) (hkeys o)
    (hkeys p)

end SortedMembers

/-! ## Values that differ in secrets at most -/

/-- The same public key, and a private key in both or in neither. -/
def KeyPair.Alike (k l : KeyPair) : Prop :=
  k.publicKey = l.publicKey ∧ k.privateKey.isSome = l.privateKey.isSome

/-- The values differ in the contents of their secrets at most. -/
def CredentialType.Alike : (t : CredentialType) → t.Value → t.Value → Prop
  | .value, _, _ => True
  | .password, _, _ => True
  | .user, v, w => v.username = w.username ∧ v.passwordHash = w.passwordHash
  | .json, v, w => ∀ key, key ∈ v.members.keys ↔ key ∈ w.members.keys
  | .certificate, v, w => v.certificate = w.certificate ∧ v.authority = w.authority ∧
      v.authorityName = w.authorityName ∧ v.privateKey.isSome = w.privateKey.isSome
  | .rsa, v, w => v.keys.Alike w.keys
  | .ssh, v, w => v.keys.Alike w.keys ∧ v.fingerprint = w.fingerprint

/-- The values are of one type and differ in the contents of their secrets at most. -/
def AnyValue.Alike (a b : AnyValue) : Prop :=
  ∃ (t : CredentialType) (v w : t.Value), a = of t v ∧ b = of t w ∧ t.Alike v w

/-- The values differ in the contents of their secrets at most. -/
def ValueKind.Alike : (k : ValueKind) → k.Carrier → k.Carrier → Prop
  | .typed t => t.Alike
  | .any => AnyValue.Alike

/-! ## What is inspected -/

namespace Inspect

@[simp] theorem option_text_inj {o p : Option String} :
    option text o = option text p ↔ o = p := by
  cases o <;> cases p <;> simp [option]

/-- Of an optional secret it is shown whether it is there. -/
@[simp] theorem option_secret_eq_iff {o p : Option Secret} :
    option Secret.inspect o = option Secret.inspect p ↔ o.isSome = p.isSome := by
  cases o <;> cases p <;> simp [option, Secret.inspect]

end Inspect

open CredentialValue (inspect)

theorem KeyPair.inspectKeys_eq_iff {k l : KeyPair} : k.inspectKeys = l.inspectKeys ↔ k.Alike l := by
  simp [inspectKeys, Alike]

/-- A value of a type shows what is not secret, and nothing else. -/
theorem CredentialType.inspect_eq_iff (t : CredentialType) (v w : t.Value) :
    CredentialValue.inspect v = CredentialValue.inspect w ↔ t.Alike v w := by
  cases t with
  | value | password => exact ⟨fun _ => trivial, fun _ => rfl⟩
  | user =>
    show Inspect.record _ _ = Inspect.record _ _ ↔ _ ∧ _
    simp [Secret.inspect]
  | json =>
    refine Iff.trans ?_ (v.members.keys_eq_iff w.members)
    show Inspect.record _ _ = Inspect.record _ _ ↔ _
    simp [List.map_inj_right]
  | certificate =>
    show Inspect.record _ _ = Inspect.record _ _ ↔ _ ∧ _
    simp
  | rsa =>
    show Inspect.record _ _ = Inspect.record _ _ ↔ KeyPair.Alike _ _
    rw [← KeyPair.inspectKeys_eq_iff]
    simp
  | ssh =>
    show Inspect.record _ _ = Inspect.record _ _ ↔ KeyPair.Alike _ _ ∧ _
    rw [← KeyPair.inspectKeys_eq_iff]
    simp [KeyPair.inspectKeys, and_assoc]

theorem CredentialType.name_inj {t u : CredentialType} (h : t.name = u.name) : t = u := by
  revert h
  cases t <;> cases u <;> decide

theorem AnyValue.inner_of (t : CredentialType) (v : t.Value) : (of t v).inner = inspect v := by
  cases t <;> rfl

/-- A value of any type shows its type besides. -/
theorem AnyValue.inspect_eq_iff (a b : AnyValue) : inspect a = inspect b ↔ a.Alike b := by
  have hwrap : ∀ a : AnyValue, inspect a = .wrap a.tag.name a.inner := fun _ => rfl
  rw [hwrap, hwrap, Inspect.wrap.injEq]
  refine ⟨?_, ?_⟩
  · rintro ⟨hname, hinner⟩
    obtain ⟨t, v, rfl⟩ : ∃ t v, a = of t v := ⟨_, exists_of a⟩
    obtain ⟨u, w, rfl⟩ : ∃ u w, b = of u w := ⟨_, exists_of b⟩
    rw [tag_of, tag_of] at hname
    obtain rfl : t = u := CredentialType.name_inj hname
    rw [inner_of, inner_of, CredentialType.inspect_eq_iff] at hinner
    exact ⟨t, v, w, rfl, rfl, hinner⟩
  · rintro ⟨t, v, w, rfl, rfl, h⟩
    rw [tag_of, tag_of, inner_of, inner_of]
    exact ⟨rfl, (t.inspect_eq_iff v w).2 h⟩

/-- **A value shows what is not secret, and nothing else.** -/
theorem ValueKind.inspect_eq_iff (k : ValueKind) (v w : k.Carrier) :
    inspect v = inspect w ↔ k.Alike v w := by
  cases k with
  | typed t => exact t.inspect_eq_iff v w
  | any => exact AnyValue.inspect_eq_iff v w

/-- **What is inspected does not depend on secrets.** Two values of a kind show the same exactly
when they differ in secrets at most, and then the text is the same: of the values, of an envelope
with one or the other, and of details with one or the other. -/
theorem ValueKind.inspect_hides_secrets (k : ValueKind) (v w : k.Carrier) :
    (inspect v = inspect w ↔ k.Alike v w) ∧
    (k.Alike v w → (inspect v).render = (inspect w).render ∧
      (∀ e : Envelope k.Carrier, ({ e with payload := v } : Envelope k.Carrier).inspect.render =
        ({ e with payload := w } : Envelope k.Carrier).inspect.render) ∧
      ∀ d : Details k.Carrier, ({ d with value := v } : Details k.Carrier).inspect.render =
        ({ d with value := w } : Details k.Carrier).inspect.render) := by
  refine ⟨k.inspect_eq_iff v w, fun h => ?_⟩
  have hinspect : inspect v = inspect w := (k.inspect_eq_iff v w).2 h
  refine ⟨congrArg Inspect.render hinspect, fun e => congrArg Inspect.render ?_,
    fun d => congrArg Inspect.render ?_⟩
  · have hpayload : ∀ v : k.Carrier, Payload.inspect v = inspect v := fun _ => rfl
    unfold Envelope.inspect
    rw [hpayload, hpayload, hinspect]
  · unfold Details.inspect
    rw [hinspect]

end CredStore
