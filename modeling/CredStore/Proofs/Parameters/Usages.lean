import CredStore.Proofs.Envelope.Generate
import Mathlib.Data.List.Nodup

/-!
# Usages in envelopes

The usages of a certificate are to be sent without repetition, each where it was first given. Edits
keep the lists so (`foldl_edit_collected`); reading takes a list as it comes, and as it came it is
sent. So what is sent is free of repetition when the parameters were edited, and when they were
read, exactly if the list that was read is (`usages_emitted`).
-/

namespace CredStore

/-! ## Words -/

theorem KeyUsage.text_injective : Function.Injective text := by
  intro u v h
  cases u <;> cases v <;> first | rfl | exact absurd h (by decide)

theorem ExtendedKeyUsage.text_injective : Function.Injective text := by
  intro u v h
  cases u <;> cases v <;> first | rfl | exact absurd h (by decide)

/-! ## Editing -/

namespace CertificateParameters

/-- The usages that an edit gives. -/
def Edit.usages : Edit → List KeyUsage
  | .keyUsage u => [u]
  | .keyUsages us => us
  | _ => []

/-- The extended usages that an edit gives. -/
def Edit.extendedUsages : Edit → List ExtendedKeyUsage
  | .extendedKeyUsage u => [u]
  | .extendedKeyUsages us => us
  | _ => []

section Collected

variable {α : Type} [DecidableEq α]

/-- What was given, each member once and where it was first given; unset when nothing was given. -/
def collected (given : List α) : Option (List α) :=
  if given = [] then none else some given.eraseDups

theorem getD_collected (given : List α) : (collected given).getD [] = given.eraseDups := by
  unfold collected
  split
  · subst given
    rfl
  · rfl

/-- Growing goes on from what was given before. -/
theorem grow_collected (given more : List α) :
    grow (collected given) more = collected (given ++ more) := by
  induction more generalizing given with
  | nil => rw [List.append_nil]; rfl
  | cons a more ih =>
    -- one more member counts only if it was not given before, as for `eraseDups`
    have hadd : Distinct.add ((collected given).getD []) a = (given ++ [a]).eraseDups := by
      rw [getD_collected, ← Distinct.ofList_eq_eraseDups, ← Distinct.ofList_eq_eraseDups,
        Distinct.ofList, Distinct.ofList, Distinct.addAll_append]
      rfl
    have hone : some (Distinct.add ((collected given).getD []) a) = collected (given ++ [a]) := by
      rw [hadd, collected, if_neg (by simp)]
    show grow (some (Distinct.add ((collected given).getD []) a)) more = _
    rw [hone, ih, List.append_assoc, List.singleton_append]

/-- A list that each edit makes grow holds, after all edits, what they gave. -/
theorem foldl_edit_collected {field : CertificateParameters → Option (List α)}
    {given : Edit → List α} (hedit : ∀ p e, field (p.edit e) = grow (field p) (given e))
    (es : List Edit) {p : CertificateParameters} {before : List α}
    (hp : field p = collected before) :
    field (es.foldl edit p) = collected (before ++ es.flatMap given) := by
  have happend : ∀ (c : Option (List α)) (as bs : List α),
      grow c (as ++ bs) = grow (grow c as) bs := fun _ _ _ => List.foldl_append
  rw [Edits.foldl_grow field grow (fun _ => rfl) happend hedit, hp, grow_collected]

end Collected

theorem keyUsage_edits (es : List Edit) :
    (es.foldl edit {}).keyUsage = collected (es.flatMap Edit.usages) :=
  foldl_edit_collected (fun _ e => by cases e <;> rfl) es (show _ = collected [] from rfl)

theorem extendedKeyUsage_edits (es : List Edit) :
    (es.foldl edit {}).extendedKeyUsage = collected (es.flatMap Edit.extendedUsages) :=
  foldl_edit_collected (fun _ e => by cases e <;> rfl) es (show _ = collected [] from rfl)

end CertificateParameters

/-! ## Reading -/

namespace Json

/-- The document of a field: under its key in an object, at its position in a list. -/
def field? : Json → Nat → String → Option Json
  | .object ms, _, key => Members.get? ms key
  | .list js, i, _ => js[i]?
  | _, _, _ => none

/-- The document gives these members for a field that is a list: nothing when the field is missing
or null, else what is read item by item. -/
def Gives {α : Type} (j : Json) (i : Nat) (key : String) (d : Decoder α) (as : List α) : Prop :=
  match j.field? i key with
  | none | some .null => as = []
  | some items => Decoder.list d items = .ok as

end Json

namespace Record

variable {α : Type}

theorem exists_source {r : Record α} {name : String} {j : Json} {a : α}
    (h : r.decoder name j = .ok a) :
    ∃ s : Source, (∀ i key, s.field? i key = j.field? i key) ∧ r.build s 0 = .ok a := by
  cases j with
  | object ms =>
    obtain ⟨_, -, hb⟩ := bind_eq_ok.1 h
    exact ⟨.members ms, fun _ _ => rfl, hb⟩
  | list js =>
    obtain ⟨b, hb, h⟩ := bind_eq_ok.1 h
    split at h
    · -- too long a list is refused
      cases h
    · cases h
      exact ⟨_, fun _ _ => rfl, hb⟩
  | _ => cases h

theorem gives_of_build {d : Decoder α} {s : Source} {i : Nat} {key : String} {j : Json}
    {o : Option (List α)} (hs : s.field? i key = j.field? i key)
    (h : (optional key (Decoder.list d)).build s i = .ok o) : j.Gives i key d (o.getD []) := by
  unfold Json.Gives
  simp only [optional, field, hs] at h
  split at h
  · rename_i items hitems
    rw [hitems]
    obtain ⟨rfl, rfl⟩ | ⟨hnull, as, has, rfl⟩ := Decoder.option_eq_ok.1 h
    · rfl
    · cases items <;> first | exact absurd rfl hnull | exact has
  · rename_i hnone
    rw [hnone]
    split at h
    · cases h
      rfl
    · cases h

end Record

namespace CertificateParameters

theorem gives_usages {j : Json} {p : CertificateParameters}
    (h : GenerationParameters.decoder j = .ok p) :
    j.Gives 12 "key_usage" KeyUsage.decoder (p.keyUsage.getD []) ∧
      j.Gives 13 "extended_key_usage" ExtendedKeyUsage.decoder (p.extendedKeyUsage.getD []) := by
  obtain ⟨s, hs, hb⟩ := Record.exists_source h
  -- the usages are the last two of the fourteen fields
  simp only [record, Record.build_seq_eq_ok, Record.build_map, map_eq_ok] at hb
  obtain ⟨_, _, ⟨_, _, ⟨_, _, ⟨_, _, ⟨_, _, ⟨_, _, ⟨_, _, ⟨_, _, ⟨_, _, ⟨_, _, ⟨_, _, ⟨_, _, ⟨_, _,
    ⟨_, -, rfl⟩, -, rfl⟩, -, rfl⟩, -, rfl⟩, -, rfl⟩, -, rfl⟩, -, rfl⟩, -, rfl⟩, -, rfl⟩, -, rfl⟩,
    -, rfl⟩, -, rfl⟩, husage, rfl⟩, hextended, rfl⟩ := hb
  exact ⟨Record.gives_of_build (hs _ _) husage, Record.gives_of_build (hs _ _) hextended⟩

end CertificateParameters

/-! ## Sending -/

namespace Json

/-- The document under a key of an object. -/
def under? (key : String) : Json → Option Json
  | .object ms => Members.get? ms key
  | _ => none

/-- The texts in the list under a key of the parameters in the document of an envelope. -/
def parameterTexts? (j : Json) (key : String) : Option (List String) :=
  ((j.under? "parameters").bind (under? key)).bind fun items =>
    (Decoder.list Decoder.text items).toOption

/-- The document of an envelope lists what was given: each member once, as its word, and where it
was first given. -/
structure ListsOnce {α : Type} [DecidableEq α] (j : Json) (key : String) (word : α → String)
    (given : List α) : Prop where
  isSome : given ≠ [] → (j.parameterTexts? key).isSome
  nodup : ∀ words, j.parameterTexts? key = some words → words.Nodup
  order : ∀ words, j.parameterTexts? key = some words → words = given.eraseDups.map word

theorem parameterTexts?_object {α : Type} {ms ps : Members} {key : String} {word : α → String}
    {f : α → Json} {o : Option (List α)} (hf : ∀ a, f a = .text (word a))
    (hms : ms.get? "parameters" = some (.object ps))
    (hps : ps.get? key = o.map (Json.sorted ∘ fun as => .list (as.map f))) :
    (Json.object ms).parameterTexts? key = o.map (List.map word) := by
  obtain rfl : f = fun a => .text (word a) := funext hf
  unfold parameterTexts?
  rw [under?, hms, Option.bind_some, under?, hps]
  cases o with
  | none => rfl
  | some as =>
    have htexts : Decoder.list Decoder.text (Json.list (as.map fun a => .text (word a))).sorted =
        .ok (as.map word) := by
      refine Decoder.list_eq_ok.2 ⟨_, Json.sorted_list _, ?_⟩
      rw [List.map_map, List.map_map, List.map_map]
      rfl
    simp only [Option.map_some, Option.bind_some, Function.comp_apply, htexts]
    rfl

section ListsOnce

variable {α : Type} [DecidableEq α] {j : Json} {key : String} {word : α → String}

/-- A list that is sent as it is is sent once exactly if nothing is repeated in it. -/
theorem listsOnce_getD_iff {o : Option (List α)} (hword : Function.Injective word)
    (hj : j.parameterTexts? key = o.map (List.map word)) :
    j.ListsOnce key word (o.getD []) ↔ (o.getD []).Nodup := by
  cases o with
  | none => exact ⟨fun _ => List.nodup_nil, fun _ => ⟨absurd rfl, by simp [hj], by simp [hj]⟩⟩
  | some given =>
    constructor
    · intro h
      exact (List.nodup_map_iff hword).1 (h.nodup _ hj)
    · intro h
      refine ⟨fun _ => by simp [hj], fun words hw => ?_, fun words hw => ?_⟩
      · obtain rfl : given.map word = words := Option.some.inj (hj.symm.trans hw)
        exact (List.nodup_map_iff hword).2 h
      · obtain rfl : given.map word = words := Option.some.inj (hj.symm.trans hw)
        exact congrArg (List.map word) (Distinct.eraseDups_of_nodup h).symm

theorem listsOnce_collected {given : List α} (hword : Function.Injective word)
    (hj : j.parameterTexts? key =
      (CertificateParameters.collected given).map (List.map word)) :
    j.ListsOnce key word given := by
  have hnodup : given.eraseDups.Nodup := by
    rw [← Distinct.ofList_eq_eraseDups]
    exact Distinct.nodup_addAll List.nodup_nil given
  have hwords : ∀ words, j.parameterTexts? key = some words →
      words = given.eraseDups.map word := by
    intro words hw
    rw [hj, CertificateParameters.collected] at hw
    split at hw
    · cases hw
    · exact (Option.some.inj hw).symm
  refine ⟨fun hne => ?_, fun words hw => ?_, hwords⟩
  · rw [hj, CertificateParameters.collected, if_neg hne]
    rfl
  · rw [hwords words hw]
    exact (List.nodup_map_iff hword).2 hnodup

end ListsOnce

end Json

namespace CertificateParameters

variable {d : Envelope.Draft CertificateParameters} {e : Envelope CertificateParameters}

theorem parameterTexts?_document (h : d.build = .ok e) :
    e.document.parameterTexts? "key_usage" = e.payload.keyUsage.map (List.map KeyUsage.text) ∧
      e.document.parameterTexts? "extended_key_usage" =
        e.payload.extendedKeyUsage.map (List.map ExtendedKeyUsage.text) := by
  obtain ⟨ms, hms, hget⟩ := Envelope.parameters_document (k := .certificate) h
  rw [hms]
  exact ⟨Json.parameterTexts?_object (f := KeyUsage.toJson) (fun _ => rfl) hget (by simp),
    Json.parameterTexts?_object (f := ExtendedKeyUsage.toJson) (fun _ => rfl) hget (by simp)⟩

/-- **Usages are sent once if they were given by edits.** The lists of usages in the document of an
envelope are those of the parameters. When the parameters come from edits, the lists hold what the
edits gave, each usage once and where it was first given. When they were read, the lists hold what
the document gave as it stood there, so that a usage is sent once exactly if it was given once. -/
theorem usages_emitted (h : d.build = .ok e) :
    d.payload = some e.payload ∧
    (∀ es : List Edit, e.payload = es.foldl edit {} →
      e.document.ListsOnce "key_usage" KeyUsage.text (es.flatMap Edit.usages) ∧
      e.document.ListsOnce "extended_key_usage" ExtendedKeyUsage.text
        (es.flatMap Edit.extendedUsages)) ∧
    ∀ j, GenerationParameters.decoder j = .ok e.payload → ∃ us xs,
      j.Gives 12 "key_usage" KeyUsage.decoder us ∧
      j.Gives 13 "extended_key_usage" ExtendedKeyUsage.decoder xs ∧
      (∀ words, e.document.parameterTexts? "key_usage" = some words →
        words = us.map KeyUsage.text) ∧
      (∀ words, e.document.parameterTexts? "extended_key_usage" = some words →
        words = xs.map ExtendedKeyUsage.text) ∧
      (e.document.ListsOnce "key_usage" KeyUsage.text us ↔ us.Nodup) ∧
      (e.document.ListsOnce "extended_key_usage" ExtendedKeyUsage.text xs ↔ xs.Nodup) := by
  obtain ⟨n, p, hd, rfl⟩ := Envelope.Draft.build_eq_ok.1 h
  obtain ⟨hus, hxs⟩ := parameterTexts?_document h
  refine ⟨hd.payload, fun es hes => ⟨?_, ?_⟩, fun j hj => ?_⟩
  · rw [hes, keyUsage_edits] at hus
    exact Json.listsOnce_collected KeyUsage.text_injective hus
  · rw [hes, extendedKeyUsage_edits] at hxs
    exact Json.listsOnce_collected ExtendedKeyUsage.text_injective hxs
  · obtain ⟨hgives, hgives'⟩ := gives_usages hj
    refine ⟨_, _, hgives, hgives', fun words hw => ?_, fun words hw => ?_,
      Json.listsOnce_getD_iff KeyUsage.text_injective hus,
      Json.listsOnce_getD_iff ExtendedKeyUsage.text_injective hxs⟩
    · obtain ⟨us, hsome, rfl⟩ := Option.map_eq_some_iff.1 (hus.symm.trans hw)
      rw [hsome, Option.getD_some]
    · obtain ⟨xs, hsome, rfl⟩ := Option.map_eq_some_iff.1 (hxs.symm.trans hw)
      rw [hsome, Option.getD_some]

/-- Edits that give a usage twice. -/
def repeatedEdits : List Edit :=
  [.commonName "a", .selfSign true, .keyUsage .crlSign, .keyUsages [.keyAgreement, .crlSign]]

/-- A usage that edits give twice is sent once. -/
theorem usages_emitted_repeatedEdits : ∃ e : Envelope CertificateParameters,
    Envelope.Draft.build ⟨some Name.root, some (repeatedEdits.foldl edit {}), none, none, []⟩ =
      .ok e ∧
    e.document.ListsOnce "key_usage" KeyUsage.text [.crlSign, .keyAgreement, .crlSign] := by
  have h : Envelope.Draft.build
      ⟨some Name.root, some (repeatedEdits.foldl edit {}), none, none, []⟩ = .ok _ := rfl
  exact ⟨_, h, ((usages_emitted h).2.1 repeatedEdits rfl).1⟩

/-- Parameters in whose document a usage is given twice. -/
def repeatedUsage : Json :=
  .object [("common_name", .text "a"), ("key_usage", .texts ["crl_sign", "crl_sign"]),
    ("self_sign", .bool true)]

/-- A usage that is read twice is sent twice. -/
theorem repeated_usage_sent : ∃ p e us,
    (GenerationParameters.decoder repeatedUsage : Except DecodeError CertificateParameters) =
      .ok p ∧
    (Envelope.Draft.build ⟨some Name.root, some p, none, none, []⟩ :
      Outcome (Envelope CertificateParameters)) = .ok e ∧
    repeatedUsage.Gives 12 "key_usage" KeyUsage.decoder us ∧
    e.document.parameterTexts? "key_usage" = some ["crl_sign", "crl_sign"] ∧
    ¬ e.document.ListsOnce "key_usage" KeyUsage.text us := by
  refine ⟨{ commonName := some "a", selfSign := some true,
            keyUsage := some [.crlSign, .crlSign] }, _, [.crlSign, .crlSign], rfl, rfl, rfl, rfl,
    ?_⟩
  intro h
  exact absurd (h.nodup ["crl_sign", "crl_sign"] rfl) (by decide)

end CertificateParameters

end CredStore
