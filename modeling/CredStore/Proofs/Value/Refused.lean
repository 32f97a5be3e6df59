import CredStore.Proofs.Details.Dispatch
import CredStore.Proofs.Json.Blanked
import CredStore.Proofs.Text.Quoted

/-!
# What a refusal tells of a value

The document of a value that is refused may hold secrets, and the refusal is a text for people. For
all but one form of document the text tells of the structure alone: two documents that differ in
the contents of their texts are refused in the same words (`ValueKind.ofWire_blanked`). The
exception is a bare text where a type wants an object (`ValueKind.Quotes`), which the refusal quotes
whole (`ValueKind.refusal_tells_structure`). Plain values and passwords are texts themselves, and
read any.
-/

namespace CredStore

open CredentialValue (ofWire)

/-! ## The records of values -/

theorem Secret.decoder_blind : Secret.decoder.Blind Anything :=
  Decoder.text_blind.map fun _ _ _ => trivial

theorem UserValue.record_blind : UserValue.record.Blind Anything := by
  refine .seq (.seq (.map (.optional Decoder.text_blind) ?_) (.required Secret.decoder_blind))
    (.optional Decoder.text_blind)
  intro _ _ _ _ _ _ _ _ _
  trivial

namespace CertificateValue.Draft

/-- The same of the three parts are set of which a certificate needs one. -/
def SameParts (d e : Draft) : Prop :=
  SameSet d.certificate e.certificate ∧ SameSet d.authority e.authority ∧
    SameSet d.privateKey e.privateKey

theorem record_blind : record.Blind SameParts := by
  refine .seq (.seq (.seq (.map (.optional Decoder.text_blind) ?_) (.optional Decoder.text_blind))
    (.optional Decoder.text_blind)) (.optional Secret.decoder_blind)
  -- of the four parts, the name of the authority is not needed
  intro _ _ hcertificate _ _ hauthority _ _ _ _ _ hkey
  exact ⟨hcertificate, hauthority, hkey⟩

theorem build_agree {d e : Draft} (h : d.SameParts e) : Agree Anything d.build e.build := by
  obtain ⟨hcertificate, hauthority, hkey⟩ := h
  unfold build
  simp only [hcertificate, hauthority, hkey]
  split
  · exact .ok trivial
  · exact .error _

end CertificateValue.Draft

namespace KeyPair

/-- The same of the two keys are set. -/
def SameKeys (r s : Raw) : Prop :=
  SameSet r.publicKey s.publicKey ∧ SameSet r.privateKey s.privateKey

theorem record_blind : record.Blind SameKeys := by
  refine .seq (.seq (.map (.optional Decoder.text_blind) ?_) (.optional Secret.decoder_blind))
    (.optional Decoder.text_blind)
  intro _ _ hpublic _ _ hprivate _ _ _
  exact ⟨hpublic, hprivate⟩

theorem ofRaw_agree {r s : Raw} (h : SameKeys r s) : Agree Anything (ofRaw r) (ofRaw s) := by
  obtain ⟨hpublic, hprivate⟩ := h
  unfold ofRaw Draft.build
  simp only [hpublic, hprivate]
  split
  · exact .ok trivial
  · exact .error _

end KeyPair

/-! ## Values of one type -/

theorem ofTagged_agree {α : Type} {R : α → α → Prop} {t : CredentialType} {name : String}
    {d : Decoder α} {j j' : Json} (h : Agree R (d j) (d j')) :
    Agree R (ofTagged t name d t j) (ofTagged t name d t j') := by
  unfold ofTagged
  rw [if_pos rfl, if_pos rfl]
  exact h.mapError

namespace CredentialType

/-- The documents of the type are objects. -/
def WantsObject (t : CredentialType) : Prop :=
  t ≠ .value ∧ t ≠ .password

instance (t : CredentialType) : Decidable t.WantsObject :=
  inferInstanceAs (Decidable (_ ∧ _))

/-- The contents of texts do not count, except where a bare text stands for an object. -/
theorem ofWire_blanked (t : CredentialType) {j : Json} (h : t.WantsObject → ∀ s, j ≠ .text s) :
    Agree Anything (ofWire t j : Outcome t.Value) (ofWire t j.blanked) := by
  cases t with
  | value | password =>
    exact ofTagged_agree ((Secret.decoder_blind j).map (S := Anything) fun _ _ _ => trivial)
  | user => exact ofTagged_agree (UserValue.record_blind.decoder (h (by decide)))
  | json =>
    exact ofTagged_agree ((Decoder.members_agree (h (by decide))).map (S := Anything)
      fun _ _ _ => trivial)
  | certificate =>
    exact ofTagged_agree ((CertificateValue.Draft.record_blind.decoder (h (by decide))).ruled
      fun _ _ => CertificateValue.Draft.build_agree)
  | rsa | ssh =>
    exact ofTagged_agree ((KeyPair.record_blind.decoder (h (by decide))).ruled (S := Anything)
      fun _ _ hsame => (KeyPair.ofRaw_agree hsame).map fun _ _ _ => trivial)

/-- A bare text that stands for an object is refused, and quoted. -/
theorem ofWire_text {t : CredentialType} (h : t.WantsObject) :
    ∃ context wanted, ∀ s, (ofWire t (.text s) : Outcome t.Value) =
      mismatch (.undecodable context (.unexpected (.text s) wanted)) := by
  cases t with
  | value => exact absurd rfl h.1
  | password => exact absurd rfl h.2
  | user | json | certificate | rsa | ssh => exact ⟨_, _, fun _ => rfl⟩

end CredentialType

/-! ## Values of any kind -/

namespace ValueKind

/-- The kind has the tag's own type read the value, and this type wants an object where a bare text
stands. -/
def Quotes (k : ValueKind) (u : CredentialType) (j : Json) : Prop :=
  (k = .any ∨ k = .typed u) ∧ u.WantsObject ∧ ∃ s, j = .text s

theorem quotes_congr {k : ValueKind} {u : CredentialType} {j j' : Json}
    (h : j.blanked = j'.blanked) : k.Quotes u j ↔ k.Quotes u j' := by
  unfold Quotes
  rw [← Json.exists_blanked_eq_text_iff, h, Json.exists_blanked_eq_text_iff]

theorem ofWire_blanked {k : ValueKind} {u : CredentialType} {j : Json} (h : ¬ k.Quotes u j) :
    Agree Anything (ofWire u j : Outcome k.Carrier) (ofWire u j.blanked) := by
  have htext : (k = .any ∨ k = .typed u) → u.WantsObject → ∀ s, j ≠ .text s :=
    fun hk hu s hs => h ⟨hk, hu, s, hs⟩
  cases k with
  | any =>
    show Agree Anything (AnyValue.read u j) (AnyValue.read u j.blanked)
    rw [AnyValue.read_eq, AnyValue.read_eq]
    exact (u.ofWire_blanked (htext (.inl rfl))).map fun _ _ _ => trivial
  | typed t =>
    show Agree Anything (ofWire u j : Outcome t.Value) (ofWire u j.blanked)
    by_cases ht : t = u
    · subst ht
      exact t.ofWire_blanked (htext (.inr rfl))
    · rw [CredentialType.ofWire_of_ne ht, CredentialType.ofWire_of_ne ht]
      exact .error _

theorem ofWire_text {k : ValueKind} {u : CredentialType} (hk : k = .any ∨ k = .typed u)
    (hu : u.WantsObject) : ∃ context wanted, ∀ s, (ofWire u (.text s) : Outcome k.Carrier) =
      mismatch (.undecodable context (.unexpected (.text s) wanted)) := by
  obtain ⟨context, wanted, hquoted⟩ := CredentialType.ofWire_text hu
  refine ⟨context, wanted, fun s => ?_⟩
  rcases hk with rfl | rfl
  · show AnyValue.read u (.text s) = _
    rw [AnyValue.read_eq, hquoted]
    rfl
  · exact hquoted s

end ValueKind

/-! ## Two readings -/

/-- Both are values, or both are refusals, and these are in the same words exactly if `P`. -/
def SameWords {α : Type} (P : Prop) (x y : Outcome α) : Prop :=
  ((∃ a, x = .ok a) ↔ ∃ b, y = .ok b) ∧
    ∀ e e', x = .error e → y = .error e' → (e.message = e'.message ↔ P)

namespace SameWords

variable {α β : Type} {P : Prop} {x y : Outcome α}

theorem of_error {e e' : Error} (h : e.message = e'.message ↔ P) :
    SameWords P (.error e : Outcome α) (.error e') := by
  refine ⟨⟨nofun, nofun⟩, fun e₁ e₂ h₁ h₂ => ?_⟩
  rw [← Except.error.inj h₁, ← Except.error.inj h₂]
  exact h

theorem of_agree (h : Agree Anything x y) (hP : P) : SameWords P x y := by
  cases h with
  | @ok a b _ => exact ⟨⟨fun _ => ⟨b, rfl⟩, fun _ => ⟨a, rfl⟩⟩, fun _ _ hx _ => nomatch hx⟩
  | error e => exact .of_error (iff_of_true rfl hP)

theorem map {f g : α → β} (h : SameWords P x y) : SameWords P (x.map f) (y.map g) := by
  have hok : ∀ {f : α → β} {x : Outcome α}, (∃ b, x.map f = .ok b) ↔ ∃ a, x = .ok a := by
    intro f x
    cases x <;> simp
  refine ⟨hok.trans (h.1.trans hok.symm), fun e e' hx hy => ?_⟩
  exact h.2 e e' (map_eq_error.1 hx) (map_eq_error.1 hy)

end SameWords

/-- The words of a refusal that quotes a text tell which text it is. -/
theorem message_quoted_inj {context wanted s s' : String} :
    (Error.deserialization (.undecodable context (.unexpected (.text s) wanted))).message =
      (Error.deserialization (.undecodable context (.unexpected (.text s') wanted))).message ↔
    s = s' := by
  have hmessage : ∀ s : String,
      (Error.deserialization (.undecodable context (.unexpected (.text s) wanted))).message =
        "Deserialization failed: " ++ (context ++ ": " ++
          ("invalid type: " ++ ("string " ++ Text.quoted s) ++ ", expected " ++ wanted)) :=
    fun _ => rfl
  rw [hmessage, hmessage, String.append_right_inj, String.append_right_inj,
    String.append_left_inj, String.append_left_inj, String.append_right_inj,
    String.append_right_inj, Text.quoted_inj]

namespace ValueKind

variable {k : ValueKind} {u : CredentialType} {j j' : Json}

/-- Documents that differ in the contents of texts are refused in the same words, unless they are
different texts and quoted. -/
theorem ofWire_sameWords (h : j.blanked = j'.blanked) :
    SameWords (j = j' ∨ ¬ k.Quotes u j) (ofWire u j : Outcome k.Carrier) (ofWire u j') := by
  by_cases hq : k.Quotes u j
  · obtain ⟨-, -, s', rfl⟩ := (quotes_congr h).1 hq
    obtain ⟨hk, hu, s, rfl⟩ := hq
    obtain ⟨context, wanted, hquoted⟩ := ofWire_text hk hu
    rw [hquoted, hquoted]
    refine .of_error (message_quoted_inj.trans ?_)
    have hquotes : k.Quotes u (.text s) := ⟨hk, hu, s, rfl⟩
    simp [hquotes]
  · have hq' : ¬ k.Quotes u j' := fun hq' => hq ((quotes_congr h).2 hq')
    have hblank := ofWire_blanked hq'
    rw [← h] at hblank
    exact .of_agree ((ofWire_blanked hq).trans_symm hblank) (.inr hq)

end ValueKind

/-! ## Details -/

namespace Details

/-- The document of details: that of the value among other members. -/
def around (pre post : Members) (j : Json) : Json :=
  .object (pre ++ ("value", j) :: post)

/-- The envelope is readable, and its tag wants an object where a bare text stands. -/
def Quotes (k : ValueKind) (pre post : Members) (j : Json) : Prop :=
  ∃ raw, envelope (around pre post j) = .ok raw ∧ k.Quotes raw.tag j

variable {pre : Members} (hpre : pre.get? "value" = none) (post : Members) (j j' : Json)

include hpre

theorem record_agreeOn : record.AgreeOn (fun raw raw' => raw' = { raw with value := j' })
    (.members (pre ++ ("value", j) :: post)) (.members (pre ++ ("value", j') :: post)) := by
  have hfield : ∀ {α : Type} {k : String} {d : Decoder α} {absent}, k ≠ "value" →
      (∀ ms ms' i, absent (.members ms) i = absent (.members ms') i) →
      (Record.field k d absent).AgreeOn Eq (.members (pre ++ ("value", j) :: post))
        (.members (pre ++ ("value", j') :: post)) := by
    intro α k d absent hk habsent
    refine Record.agreeOn_field ?_ fun i => habsent _ _ i
    simp only [Members.get?_append, Members.get?_cons, if_neg hk]
  have hvalue : (Record.required "value" Decoder.json).AgreeOn (fun _ b => b = j')
      (.members (pre ++ ("value", j) :: post)) (.members (pre ++ ("value", j') :: post)) := by
    have hbuild : ∀ j i, (Record.required "value" Decoder.json).build
        (.members (pre ++ ("value", j) :: post)) i = .ok j :=
      fun j i => Record.build_required_eq_ok.2 ⟨j, by simp [hpre], rfl⟩
    intro i
    rw [hbuild, hbuild]
    exact .ok rfl
  refine .seq (.seq (.seq (.seq (.seq (.map (hfield (by decide) fun _ _ _ => rfl) ?_)
    (hfield (by decide) fun _ _ _ => rfl)) (hfield (by decide) fun _ _ _ => rfl)) hvalue)
    (hfield (by decide) fun _ _ _ => rfl)) (hfield (by decide) fun _ _ _ => rfl)
  -- all fields but the value are equal in the two
  rintro id _ rfl name _ rfl tag _ rfl _ v rfl createdAt _ rfl transitional _ rfl
  rfl

theorem envelope_around : envelope (around pre post j') =
    (envelope (around pre post j)).map fun raw => { raw with value := j' } := by
  have hcheck : ∀ j, record.checkAll (pre ++ ("value", j) :: post) =
      record.checkAll (pre ++ post) := by
    intro j
    have hvalue : record.check "value" j = .ok () := rfl
    rw [Record.checkAll_append, Record.checkAll_append, Record.checkAll, hvalue, ok_bind]
  refine Agree.eq_map ?_
  show Agree _ ((record.checkAll _).bind _) ((record.checkAll _).bind _)
  rw [hcheck, hcheck]
  cases record.checkAll (pre ++ post) with
  | ok _ => exact record_agreeOn hpre post j j' 0
  | error e => exact .error e

theorem ofDocument_sameWords {k : ValueKind} {j j' : Json} (h : j.blanked = j'.blanked) :
    SameWords (j = j' ∨ ¬ Quotes k pre post j)
      (ofDocument (around pre post j) : Outcome (Details k.Carrier))
      (ofDocument (around pre post j')) := by
  have hsame := envelope_around hpre post j j
  have hother := envelope_around hpre post j j'
  unfold Quotes
  cases henv : envelope (around pre post j) with
  | error e =>
    -- the value has not been looked at
    rw [henv, map_error] at hother
    rw [ofDocument_of_error henv, ofDocument_of_error hother]
    exact .of_error (iff_of_true rfl (.inr nofun))
  | ok raw =>
    rw [henv, map_ok] at hsame hother
    have hvalue : raw.value = j := congrArg Details.value (Except.ok.inj hsame)
    rw [ofDocument_of_ok henv, ofDocument_of_ok hother, hvalue]
    have hwire := ValueKind.ofWire_sameWords (k := k) (u := raw.tag) h
    simpa using hwire.map

end Details

/-! ## What is revealed -/

/-- **A refusal tells of the structure of a value, and of a text only where it quotes one.** Two
documents that differ in the contents of texts at most are both accepted or both refused, and the
words of the refusals are the same, unless the two are different bare texts where the type of the
tag wants an object: these are quoted. It is so for a value next to its tag, and for a value within
the details of a credential. -/
theorem ValueKind.refusal_tells_structure {j j' : Json} (h : j.blanked = j'.blanked)
    (k : ValueKind) (u : CredentialType) :
    SameWords (j = j' ∨ ¬ k.Quotes u j) (ofWire u j : Outcome k.Carrier) (ofWire u j') ∧
    ∀ pre post : Members, pre.get? "value" = none →
      SameWords (j = j' ∨ ¬ Details.Quotes k pre post j)
        (Details.ofDocument (Details.around pre post j) : Outcome (Details k.Carrier))
        (Details.ofDocument (Details.around pre post j')) :=
  ⟨ofWire_sameWords h, fun _ post hpre => Details.ofDocument_sameWords hpre post h⟩

/-- Two bare texts for a user, next to the tag and within details. -/
theorem ValueKind.refusal_tells_structure_bareText :
    (Json.text "hunter2").blanked = (Json.text "").blanked ∧
    SameWords (Json.text "hunter2" = .text "" ∨ ¬ ValueKind.any.Quotes .user (.text "hunter2"))
      (ofWire .user (.text "hunter2") : Outcome AnyValue) (ofWire .user (.text "")) ∧
    Members.get? [("name", .text "/a"), ("type", .text "user")] "value" = none ∧
    SameWords (Json.text "hunter2" = .text "" ∨
        ¬ Details.Quotes .any [("name", .text "/a"), ("type", .text "user")] [] (.text "hunter2"))
      (Details.ofDocument (Details.around [("name", .text "/a"), ("type", .text "user")] []
        (.text "hunter2")) : Outcome (Details AnyValue))
      (Details.ofDocument (Details.around [("name", .text "/a"), ("type", .text "user")] []
        (.text ""))) := by
  have h : (Json.text "hunter2").blanked = (Json.text "").blanked := rfl
  have hpre : Members.get? [("name", .text "/a"), ("type", .text "user")] "value" = none := rfl
  have key := ValueKind.refusal_tells_structure h .any .user
  exact ⟨h, key.1, hpre, key.2 _ [] hpre⟩

/-- A password that stands alone where a user should stand is shown to whoever reads the refusal. -/
theorem UserValue.refusal_quotes_password :
    (Json.text "hunter2").blanked = (Json.text "").blanked ∧
    ∃ e e', (ofWire .user (.text "hunter2") : Outcome UserValue) = .error e ∧
      (ofWire .user (.text "") : Outcome UserValue) = .error e' ∧
      e.message = "Deserialization failed: invalid UserCredential: invalid type: string " ++
        "\"hunter2\", expected struct UserCredential" ∧
      e'.message = "Deserialization failed: invalid UserCredential: invalid type: string " ++
        "\"\", expected struct UserCredential" ∧
      e.message ≠ e'.message :=
  ⟨rfl, _, _, rfl, rfl, by decide, by decide, by decide⟩

end CredStore
