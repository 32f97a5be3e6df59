import CredStore.Json.Record
import CredStore.Json.Sorted
import CredStore.Proofs.Json.Decode

/-!
# What record decoders accept

From an object, a record is read in two passes: the members are checked in order, then the record
is built from lookups. If the keys are distinct, the first pass refuses nothing that the second
accepts (`Record.decoder_distinct_eq_ok`), so what is read depends on the lookups alone.
-/

namespace CredStore

/-! ## Lookups in written objects -/

namespace Members

/-- Under keys that differ each member is found. -/
theorem get?_of_mem {o : Members} (h : o.keys.Nodup) {m : String × Json} (hm : m ∈ o) :
    o.get? m.1 = some m.2 := by
  induction o with
  | nil => exact absurd hm List.not_mem_nil
  | cons a rest ih =>
    obtain ⟨ha, hrest⟩ := List.nodup_cons.1 h
    rw [get?_cons]
    rcases List.mem_cons.1 hm with rfl | hm
    · exact if_pos rfl
    · have hkey : m.1 ∈ rest.map Prod.fst := List.mem_map.2 ⟨m, hm, rfl⟩
      rw [if_neg fun e : m.1 = a.1 => ha (e ▸ hkey)]
      exact ih hrest hm

theorem Rising.nodup_keys {o : Members} (h : Rising o) : o.keys.Nodup :=
  (List.pairwise_map.2 h).imp fun hlt => String.ne_of_lt hlt

theorem get?_sortedMembers (ms : List (String × Json)) (k : String) :
    get? (Json.sortedMembers ms) k = (get? ms k).map Json.sorted := by
  induction ms with
  | nil => rfl
  | cons m rest ih =>
    rw [Json.sortedMembers, get?_cons, get?_cons, ih]
    by_cases h : k = m.1 <;> simp [h]

theorem sortedMembers_append (o p : List (String × Json)) :
    Json.sortedMembers (o ++ p) = Json.sortedMembers o ++ Json.sortedMembers p := by
  induction o with
  | nil => rfl
  | cons m rest ih => rw [List.cons_append, Json.sortedMembers, ih]; rfl

theorem reverse_sortedMembers (ms : List (String × Json)) :
    (Json.sortedMembers ms).reverse = Json.sortedMembers ms.reverse := by
  induction ms with
  | nil => rfl
  | cons m rest ih =>
    rw [Json.sortedMembers, List.reverse_cons, List.reverse_cons, sortedMembers_append, ih]
    rfl

/-- In an object that was sorted stands what was written last under the key, sorted. -/
@[simp] theorem get?_sorted (ms : List (String × Json)) (k : String) :
    get? (ofList (Json.sortedMembers ms)) k = (get? ms.reverse k).map Json.sorted := by
  rw [get?_ofList, reverse_sortedMembers, get?_sortedMembers]

@[simp] theorem reverse_member? {α : Type} (key : String) (f : α → Json) (o : Option α) :
    (Json.member? key f o).reverse = Json.member? key f o := by
  cases o <;> rfl

@[simp] theorem get?_member? {α : Type} (key : String) (f : α → Json) (o : Option α)
    (k : String) : get? (Json.member? key f o) k = if k = key then o.map f else none := by
  cases o with
  | none => simp [Json.member?]
  | some a => simp [Json.member?]

end Members

namespace Record

variable {α β : Type} {s : Source} {ms : Members} {i : Nat} {key : String}

/-! ## Building -/

@[simp] theorem build_seq (f : Record (α → β)) (x : Record α) (s : Source) (i : Nat) :
    (f <*> x).build s i = (f.build s i).bind fun g => (x.build s (i + f.arity)).map g := rfl

@[simp] theorem build_map (f : α → β) (x : Record α) (s : Source) (i : Nat) :
    (f <$> x).build s i = (x.build s i).map f := rfl

theorem build_seq_of {f : Record (α → β)} {x : Record α} {g : α → β} {a : α}
    (hf : f.build s i = .ok g) (hx : x.build s (i + f.arity) = .ok a) :
    (f <*> x).build s i = .ok (g a) := by
  rw [build_seq, hf, ok_bind, hx, map_ok]

theorem build_map_of {f : α → β} {x : Record α} {a : α} (hx : x.build s i = .ok a) :
    (f <$> x).build s i = .ok (f a) := by
  rw [build_map, hx, map_ok]

theorem build_required_eq_ok {d : Decoder α} {a : α} :
    (required key d).build (.members ms) i = .ok a ↔ ∃ j, ms.get? key = some j ∧ d j = .ok a := by
  simp only [required, field, Source.field?]
  cases ms.get? key with
  | none => simp
  | some j => simp

theorem build_optional_eq_ok {d : Decoder α} {o : Option α} :
    (optional key d).build (.members ms) i = .ok o ↔
      (ms.get? key = none ∧ o = none) ∨
        ∃ j, ms.get? key = some j ∧ Decoder.option d j = .ok o := by
  simp only [optional, field, Source.field?]
  cases ms.get? key with
  | none => simp [eq_comm]
  | some j => simp

theorem build_defaulted_eq_ok {value a : α} {d : Decoder α} :
    (defaulted key value d).build (.members ms) i = .ok a ↔
      (ms.get? key = none ∧ a = value) ∨ ∃ j, ms.get? key = some j ∧ d j = .ok a := by
  simp only [defaulted, field, Source.field?]
  cases ms.get? key with
  | none => simp [eq_comm]
  | some j => simp

theorem build_required_of {d : Decoder α} {j : Json} {a : α} (h : ms.get? key = some j)
    (hd : d j = .ok a) : (required key d).build (.members ms) i = .ok a :=
  build_required_eq_ok.2 ⟨j, h, hd⟩

theorem build_optional_of_none {d : Decoder α} (h : ms.get? key = none) :
    (optional key d).build (.members ms) i = .ok none :=
  build_optional_eq_ok.2 (.inl ⟨h, rfl⟩)

/-- An optional field that was written, or left out when unset, is read back. -/
theorem build_optional_of_written {d : Decoder α} {f : α → Json} {o : Option α}
    (hd : ∀ a ∈ o, Decoder.option d (f a) = .ok (some a)) (h : ms.get? key = o.map f) :
    (optional key d).build (.members ms) i = .ok o := by
  cases o with
  | none => exact build_optional_of_none h
  | some a => exact build_optional_eq_ok.2 (.inr ⟨f a, h, hd a rfl⟩)

/-! ## Checking -/

theorem checkAll_eq_ok {r : Record α} :
    r.checkAll ms = .ok () ↔ ∀ m ∈ ms, r.check m.1 m.2 = .ok () := by
  induction ms with
  | nil => simp [checkAll]
  | cons m rest ih =>
    obtain ⟨k, j⟩ := m
    rw [checkAll, bind_eq_ok, List.forall_mem_cons, ← ih]
    exact ⟨fun ⟨_, hm, hrest⟩ => ⟨hm, hrest⟩, fun ⟨hm, hrest⟩ => ⟨(), hm, hrest⟩⟩

theorem checkAll_append (r : Record α) (o p : Members) :
    r.checkAll (o ++ p) = (r.checkAll o).bind fun _ => r.checkAll p := by
  induction o with
  | nil => rfl
  | cons m rest ih =>
    obtain ⟨k, j⟩ := m
    rw [List.cons_append, checkAll, checkAll, ih]
    cases r.check k j <;> rfl

/-- The check refuses no member that the record is built from. -/
class Lawful (r : Record α) : Prop where
  check_of_build : ∀ {ms i a k j}, r.build (.members ms) i = .ok a → ms.get? k = some j →
    r.check k j = .ok ()

instance (f : Record (α → β)) (x : Record α) [Lawful f] [Lawful x] : Lawful (f <*> x) where
  check_of_build {ms i b k j} hb hk := by
    obtain ⟨g, hg, hx⟩ := bind_eq_ok.1 hb
    obtain ⟨a, ha, -⟩ := map_eq_ok.1 hx
    refine bind_eq_ok.2 ⟨(), ?_, ?_⟩
    · exact Lawful.check_of_build hg hk
    · exact Lawful.check_of_build ha hk

instance (f : α → β) (x : Record α) [Lawful x] : Lawful (f <$> x) where
  check_of_build {ms i b k j} hb hk := by
    obtain ⟨a, ha, -⟩ := map_eq_ok.1 hb
    exact Lawful.check_of_build (r := x) ha hk

instance (key : String) (d : Decoder α) (absent : Source → Nat → Except DecodeError α) :
    Lawful (field key d absent) where
  check_of_build {ms i a k j} hb hk := by
    by_cases h : k = key
    · subst h
      simp only [field, Source.field?, hk] at hb
      simp [field, hb]
    · exact if_neg h

instance (key : String) (d : Decoder α) : Lawful (required key d) :=
  inferInstanceAs (Lawful (field ..))

instance (key : String) (d : Decoder α) : Lawful (optional key d) :=
  inferInstanceAs (Lawful (field ..))

instance (key : String) (a : α) (d : Decoder α) : Lawful (defaulted key a d) :=
  inferInstanceAs (Lawful (field ..))

/-! ## Decoding -/

/-- **What a record reads from an object with distinct keys is what it builds from the lookups.** -/
theorem decoder_distinct_eq_ok {r : Record α} [Lawful r] {name : String} {a : α}
    (h : ms.keys.Nodup) :
    r.decoder name (.object ms) = .ok a ↔ r.build (.members ms) 0 = .ok a := by
  refine ⟨fun hd => ?_, fun hb => ?_⟩
  · obtain ⟨_, -, hb⟩ := bind_eq_ok.1 hd
    exact hb
  · have hcheck : r.checkAll ms = .ok () := checkAll_eq_ok.2 fun m hm =>
      Lawful.check_of_build hb (Members.get?_of_mem h hm)
    exact bind_eq_ok.2 ⟨(), hcheck, hb⟩

theorem decoder_object_eq_ok {r : Record α} [Lawful r] {name : String} {a : α}
    (h : Members.Rising ms) :
    r.decoder name (.object ms) = .ok a ↔ r.build (.members ms) 0 = .ok a :=
  decoder_distinct_eq_ok h.nodup_keys

theorem decoder_sorted_eq_ok {r : Record α} [Lawful r] {name : String} {a : α}
    (ms : List (String × Json)) :
    r.decoder name (Json.object ms).sorted = .ok a ↔
      r.build (.members (.ofList (Json.sortedMembers ms))) 0 = .ok a :=
  decoder_object_eq_ok (Members.rising_ofList _)

end Record

end CredStore
