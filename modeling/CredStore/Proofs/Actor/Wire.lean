import CredStore.Actor
import CredStore.Proofs.Json.Decode
import Mathlib.Data.List.TakeDrop
import Mathlib.Data.List.TakeWhile

/-!
# The wire form of actors

No type has a `:` in its word, so the first `:` of a wire form ends the type, and reading accepts
exactly the wire forms (`decode_eq_ok_iff`). So actors and wire forms correspond one to one
(`wire_bijection`).
-/

namespace CredStore.Actor

theorem splitColon?_eq_some {s before after : List Char} :
    splitColon? s = some (before, after) ↔ s = before ++ ':' :: after ∧ ':' ∉ before := by
  unfold splitColon?
  rw [List.span_eq_takeWhile_dropWhile]
  refine ⟨fun h => ?_, ?_⟩
  · have hs : s.takeWhile (· ≠ ':') ++ s.dropWhile (· ≠ ':') = s :=
      List.takeWhile_append_dropWhile
    have hbefore : ':' ∉ s.takeWhile (· ≠ ':') := fun hc => by
      simpa using List.mem_takeWhile_imp hc
    cases hdrop : s.dropWhile (· ≠ ':') with
    | nil => rw [hdrop] at h; cases h
    | cons c rest =>
      have hne : s.dropWhile (· ≠ ':') ≠ [] := by rw [hdrop]; simp
      have hhead := List.head_dropWhile_not (fun c => decide (c ≠ ':')) hne
      simp only [hdrop, List.head_cons] at hhead
      have hc : c = ':' := Decidable.not_not.1 (of_decide_eq_false hhead)
      rw [hdrop] at h hs
      cases h
      subst hc
      exact ⟨hs.symm, hbefore⟩
  · rintro ⟨rfl, h⟩
    have hne : ∀ c ∈ before, decide (c ≠ ':') = true :=
      fun c hc => decide_eq_true fun e => h (e ▸ hc)
    rw [List.takeWhile_append_of_pos hne, List.dropWhile_append_of_pos hne]
    simp

theorem parse_eq_ok_iff {s : String} {t : ActorType} : ActorType.parse s = .ok t ↔ s = t.text := by
  unfold ActorType.parse
  refine ⟨fun h => ?_, fun h => by rw [h, ActorType.ofText?_text]⟩
  split at h
  · rename_i u hs
    obtain rfl : u = t := Except.ok.inj h
    obtain ⟨before, after, hall, -⟩ := List.lookup_eq_some_iff.1 hs
    have hmem : (s, u) ∈ ActorType.all.map fun t => (t.text, t) := hall ▸ by simp
    obtain ⟨_, -, rfl, rfl⟩ := List.mem_map.1 hmem
    rfl
  · cases h

/-- **What is read is what is written**: reading accepts the wire form of each actor, as that actor,
and nothing else. -/
theorem decode_eq_ok_iff {s : String} {a : Actor} : decode s = .ok a ↔ s = a.encode := by
  have hcolon : ':' ∉ a.type.text.toList := by cases a.type <;> decide
  refine ⟨fun h => ?_, ?_⟩
  · unfold decode at h
    split at h
    · cases h
    · rename_i before after hsplit
      obtain ⟨hs, -⟩ := splitColon?_eq_some.1 hsplit
      obtain ⟨t, ht, h⟩ := bind_eq_ok.1 h
      split at h
      · cases h
        refine String.toList_injective ?_
        rw [hs, encode, ← parse_eq_ok_iff.1 ht]
        simp
      · cases h
  · rintro rfl
    have hsplit : splitColon? a.encode.toList = some (a.type.text.toList, a.identity.toList) :=
      splitColon?_eq_some.2 ⟨by simp [encode], hcolon⟩
    unfold decode
    rw [hsplit]
    simp only [String.ofList_toList, parse_eq_ok_iff.2 rfl, ok_bind, dif_pos a.identity_ne]

theorem decoder_eq_ok_iff {j : Json} {a : Actor} : decoder j = .ok a ↔ j = .text a.encode := by
  unfold decoder
  rw [Decoder.ruled_eq_ok]
  simp only [Decoder.text_eq_ok, decode_eq_ok_iff, exists_eq_right]

/-- An actor is read back from its document. -/
theorem decoder_toJson (a : Actor) : decoder a.toJson = .ok a :=
  decoder_eq_ok_iff.2 rfl

theorem encode_injective : Function.Injective encode := by
  intro a b h
  exact Except.ok.inj ((decode_eq_ok_iff.2 rfl).symm.trans (decode_eq_ok_iff.2 h))

/-- Every actor is made of its type and its identity, and of nothing else. -/
theorem make_eq_ok_iff {t : ActorType} {identity : String} {a : Actor} :
    make t identity = .ok a ↔ t = a.type ∧ identity = a.identity := by
  unfold make
  constructor
  · intro h
    split at h
    · cases h
      exact ⟨rfl, rfl⟩
    · cases h
  · rintro ⟨rfl, rfl⟩
    rw [dif_pos a.identity_ne]

/-- An empty identity is an argument that is refused. -/
theorem isInvalidArgument_make {t : ActorType} {identity : String} {e : Error}
    (h : make t identity = .error e) : e.isInvalidArgument := by
  unfold make at h
  split at h
  · cases h
  · cases h
    rfl

/-- A text that is no wire form is refused as a document. -/
theorem isDeserialization_decode {s : String} {e : Error} (h : decode s = .error e) :
    e.isDeserialization := by
  unfold decode at h
  split at h
  · cases h
    rfl
  · rcases bind_eq_error.1 h with h | ⟨t, -, h⟩
    · -- the word in front is of no type
      unfold ActorType.parse at h
      split at h <;> cases h
      rfl
    · split at h <;> cases h
      rfl

/-- The words of the types are the three that stand in wire forms. -/
theorem exists_text_iff {word : String} :
    (∃ t : ActorType, word = t.text) ↔ word ∈ ["mtls-app", "uaa-user", "uaa-client"] := by
  simp only [List.mem_cons, List.not_mem_nil, or_false]
  constructor
  · rintro ⟨t, rfl⟩
    cases t <;> simp [ActorType.text]
  · rintro (rfl | rfl | rfl)
    · exact ⟨.app, rfl⟩
    · exact ⟨.user, rfl⟩
    · exact ⟨.client, rfl⟩

/-- Reading accepts the texts that are a word of a type, a `:` and an identity. -/
theorem exists_decode_iff {s : String} :
    (∃ a, decode s = .ok a) ↔ ∃ word ∈ ["mtls-app", "uaa-user", "uaa-client"],
      ∃ identity, identity ≠ "" ∧ s = word ++ ":" ++ identity := by
  constructor
  · rintro ⟨a, h⟩
    exact ⟨a.type.text, exists_text_iff.1 ⟨a.type, rfl⟩, a.identity, a.identity_ne,
      decode_eq_ok_iff.1 h⟩
  · rintro ⟨word, hword, identity, hne, rfl⟩
    obtain ⟨t, rfl⟩ := exists_text_iff.2 hword
    exact ⟨⟨t, identity, hne⟩, decode_eq_ok_iff.2 rfl⟩

/-- **Actors and their wire forms correspond one to one.** A text is read as an actor exactly when
it is the wire form of that actor, that is one of the three words, a `:` and an identity that is
not empty. Different actors have different wire forms; an actor is displayed and written as its wire
form. What cannot be read is refused as a document, and an actor that cannot be made is refused as
an argument; all others can be made. -/
theorem wire_bijection :
    (∀ s a, decode s = .ok a ↔ s = a.encode) ∧
    (∀ s, (∃ a, decode s = .ok a) ↔ ∃ word ∈ ["mtls-app", "uaa-user", "uaa-client"],
      ∃ identity, identity ≠ "" ∧ s = word ++ ":" ++ identity) ∧
    (∀ a b : Actor, a.encode = b.encode → a = b) ∧
    (∀ a : Actor, a.display = a.encode ∧ a.toJson = .text a.encode ∧
      ∀ j, decoder j = .ok a ↔ j = .text a.encode) ∧
    (∀ s e, decode s = .error e → e.isDeserialization) ∧
    (∀ t identity, (∀ a, make t identity = .ok a ↔ t = a.type ∧ identity = a.identity) ∧
      ∀ e, make t identity = .error e → e.isInvalidArgument) := by
  refine ⟨fun s a => decode_eq_ok_iff, fun s => exists_decode_iff,
    fun a b h => encode_injective h, fun a => ⟨rfl, rfl, fun j => decoder_eq_ok_iff⟩,
    fun s e h => isDeserialization_decode h, fun t identity => ⟨fun a => make_eq_ok_iff, ?_⟩⟩
  exact fun e h => isInvalidArgument_make h

/-- A `:` in an identity is part of it. -/
example : (decode "uaa-client:ci:deployer").toOption.map identity = some "ci:deployer" := by
  decide +kernel

end CredStore.Actor
