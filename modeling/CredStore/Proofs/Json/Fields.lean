import CredStore.Proofs.Json.Record

/-!
# Records by their keys

`Record.Declares r keys` says that the fields of `r` are those with the given keys, in this order.
Then `r` ignores members with other keys (`Record.decoder_ignores`), and a list that gives every
field is read as the object that has the items under the keys (`Record.decoder_eq_ok_iff`). What is
read of an object is put together from what is read of each field (`Record.accepts_seq`).
-/

namespace CredStore

namespace Members

theorem mem_of_get? {ms : Members} {k : String} {j : Json} (h : ms.get? k = some j) :
    (k, j) ∈ ms := by
  obtain ⟨before, after, rfl, -⟩ := List.lookup_eq_some_iff.1 h
  simp

theorem exists_get?_of_mem {ms : Members} {k : String} {j : Json} (h : (k, j) ∈ ms) :
    ∃ j', ms.get? k = some j' := by
  induction ms with
  | nil => exact absurd h List.not_mem_nil
  | cons m rest ih =>
    rw [get?_cons]
    split
    · exact ⟨_, rfl⟩
    · rename_i hne
      rcases List.mem_cons.1 h with rfl | h
      · exact absurd rfl hne
      · exact ih h

/-- The items stand under the keys, from the given position on. -/
def Aligned (keys : List String) (js : List Json) (i : Nat) (ms : Members) : Prop :=
  ∀ m k, keys[m]? = some k → js[i + m]? = ms.get? k

theorem aligned_zip {keys : List String} {js : List Json} (h : keys.Nodup)
    (hlen : js.length = keys.length) : Aligned keys js 0 (keys.zip js) := by
  intro m k hk
  obtain ⟨hm, rfl⟩ := List.getElem?_eq_some_iff.1 hk
  have hkeys : Members.keys (keys.zip js) = keys := List.map_fst_zip (Nat.le_of_eq hlen.symm)
  have hmem : (keys[m], js[m]) ∈ keys.zip js := by
    have hzip : m < (keys.zip js).length := by
      rw [List.length_zip]
      omega
    rw [← List.getElem_zip (h := hzip)]
    exact List.getElem_mem hzip
  rw [Nat.zero_add, get?_of_mem (hkeys.symm ▸ h) hmem]
  exact List.getElem?_eq_getElem _

end Members

namespace Json

/-- The members that a document gives to a record with these fields: those of an object, or the
items of a list, one for each field in the order of their declaration. -/
def fields? (keys : List String) : Json → Option Members
  | .object ms => some ms
  | .list js => if js.length = keys.length then some (keys.zip js) else none
  | _ => none

/-- The text of a document that is one. -/
def text? : Json → Option String
  | .text s => some s
  | _ => none

end Json

namespace Members

/-- The text under a key; none when the key is not there, and none when no text is under it. -/
def text? (ms : Members) (key : String) : Option String :=
  (ms.get? key).bind Json.text?

/-- A member with this key, if there is one, is a null or a text. -/
def OptionalText (ms : Members) (key : String) : Prop :=
  ∀ j, (key, j) ∈ ms → j = .null ∨ ∃ s, j = .text s

/-- There is a member with this key, and it is a text. -/
def RequiredText (ms : Members) (key : String) : Prop :=
  (∃ j, (key, j) ∈ ms) ∧ ∀ j, (key, j) ∈ ms → ∃ s, j = .text s

theorem text?_eq_some_iff {ms : Members} {key s : String} :
    ms.text? key = some s ↔ ms.get? key = some (.text s) := by
  unfold text?
  cases ms.get? key with
  | none => simp
  | some j => cases j <;> simp [Json.text?]

theorem RequiredText.exists_text? {ms : Members} {key : String} (h : ms.RequiredText key) :
    ∃ s, ms.text? key = some s := by
  obtain ⟨⟨j, hj⟩, htexts⟩ := h
  obtain ⟨j', hget⟩ := exists_get?_of_mem hj
  obtain ⟨s, rfl⟩ := htexts j' (mem_of_get? hget)
  exact ⟨s, text?_eq_some_iff.2 hget⟩

end Members

namespace Record

variable {α β : Type} {key : String} {keys : List String} {ms : Members}

/-! ## Declared keys -/

/-- The fields of the record have these keys, in this order. -/
class Declares (r : Record α) (keys : outParam (List String)) : Prop where
  arity_eq : r.arity = keys.length
  check_of_notMem : ∀ {k j}, k ∉ keys → r.check k j = .ok ()
  /-- An object is looked up by the declared keys, wherever they stand. -/
  build_congr : ∀ {ms ms'}, (∀ k ∈ keys, Members.get? ms k = Members.get? ms' k) → ∀ i i',
    r.build (.members ms) i = r.build (.members ms') i'
  /-- A list is looked up by the positions of the keys. -/
  build_items : ∀ {js ms i}, Members.Aligned keys js i ms → i + keys.length ≤ js.length →
    ∀ name n, r.build (.items js name n) i = r.build (.members ms) i

/-- A list must give every field. -/
class Complete (r : Record α) : Prop where
  le_length : ∀ {js name n i a}, r.build (.items js name n) i = .ok a → i + r.arity ≤ js.length

section Fields

variable {d : Decoder α}

/-- A field whose absence has nothing to do with its position. -/
theorem declares_field {absent : Source → Nat → Except DecodeError α}
    (h : ∀ ms ms' i i', absent (.members ms) i = absent (.members ms') i') :
    Declares (field key d absent) [key] where
  arity_eq := rfl
  check_of_notMem hk := if_neg fun e => hk (List.mem_singleton.2 e)
  build_congr {ms ms'} hget i i' := by
    have hkey := hget key (List.mem_singleton.2 rfl)
    simp only [field, Source.field?, hkey]
    cases ms'.get? key with
    | none => exact h ..
    | some j => rfl
  build_items {js ms i} haligned hlen name n := by
    have hkey : js[i]? = ms.get? key := haligned 0 key rfl
    rw [List.length_singleton] at hlen
    simp only [field, Source.field?, ← hkey]
    rw [List.getElem?_eq_getElem hlen]

instance : Declares (required key d) [key] :=
  declares_field fun _ _ _ _ => rfl

instance : Declares (optional key d) [key] :=
  declares_field fun _ _ _ _ => rfl

instance {a : α} : Declares (defaulted key a d) [key] :=
  declares_field fun _ _ _ _ => rfl

theorem complete_field {absent : Source → Nat → Except DecodeError α}
    (h : ∀ js name n i a, absent (.items js name n) i ≠ .ok a) :
    Complete (field key d absent) where
  le_length {js name n i a} hbuild := by
    simp only [field, Source.field?] at hbuild
    cases hitem : js[i]? with
    | none =>
      rw [hitem] at hbuild
      exact (h _ _ _ _ _ hbuild).elim
    | some j => exact (List.getElem?_eq_some_iff.1 hitem).1

instance : Complete (required key d) :=
  complete_field fun _ _ _ _ _ => nofun

instance : Complete (optional key d) :=
  complete_field fun _ _ _ _ _ => nofun

end Fields

section Combined

variable {f : Record (α → β)} {x : Record α} {fs xs : List String}

instance [Declares f fs] [Declares x xs] : Declares (f <*> x) (fs ++ xs) where
  arity_eq := by
    rw [List.length_append, ← Declares.arity_eq (r := f), ← Declares.arity_eq (r := x)]
    rfl
  check_of_notMem {k j} hk := by
    rw [List.mem_append, not_or] at hk
    exact bind_eq_ok.2 ⟨(), Declares.check_of_notMem hk.1, Declares.check_of_notMem hk.2⟩
  build_congr {ms ms'} hget i i' := by
    have hf := Declares.build_congr (r := f) (fun k hk => hget k (List.mem_append_left _ hk)) i i'
    have hx := Declares.build_congr (r := x) (fun k hk => hget k (List.mem_append_right _ hk))
      (i + f.arity) (i' + f.arity)
    rw [build_seq, build_seq, hf, hx]
  build_items {js ms i} haligned hlen name n := by
    have hfs : Members.Aligned fs js i ms := fun m k hk =>
      haligned m k (by rw [List.getElem?_append_left (List.getElem?_eq_some_iff.1 hk).1, hk])
    have hxs : Members.Aligned xs js (i + f.arity) ms := fun m k hk => by
      rw [Declares.arity_eq (r := f), Nat.add_assoc]
      refine haligned (fs.length + m) k ?_
      rw [List.getElem?_append_right (Nat.le_add_right ..), Nat.add_sub_cancel_left, hk]
    rw [List.length_append] at hlen
    rw [build_seq, build_seq, Declares.build_items hfs (by omega),
      Declares.build_items hxs (by rw [Declares.arity_eq (r := f)]; omega)]

instance {g : α → β} [Declares x xs] : Declares (g <$> x) xs where
  arity_eq := (Nat.zero_add _).trans (Declares.arity_eq (r := x))
  check_of_notMem hk := Declares.check_of_notMem (r := x) hk
  build_congr hget i i' := by
    rw [build_map, build_map, Declares.build_congr (r := x) hget i i']
  build_items haligned hlen name n := by
    rw [build_map, build_map, Declares.build_items (r := x) haligned hlen]

instance [Complete f] [Complete x] : Complete (f <*> x) where
  le_length {js name n i b} h := by
    obtain ⟨g, -, hx⟩ := bind_eq_ok.1 h
    obtain ⟨a, ha, -⟩ := map_eq_ok.1 hx
    have hlen : i + f.arity + x.arity ≤ js.length := Complete.le_length ha
    show i + (f.arity + x.arity) ≤ js.length
    omega

instance {g : α → β} [Complete x] : Complete (g <$> x) where
  le_length {js name n i b} h := by
    obtain ⟨a, ha, -⟩ := map_eq_ok.1 h
    have hlen : i + x.arity ≤ js.length := Complete.le_length ha
    show i + (0 + x.arity) ≤ js.length
    omega

end Combined

/-! ## What is read -/

/-- The record reads `a` from these members: each whose key it declares can be read, and `a` is
built from the lookups. -/
def Accepts (r : Record α) (ms : Members) (a : α) : Prop :=
  (∀ m ∈ ms, r.check m.1 m.2 = .ok ()) ∧ r.build (.members ms) 0 = .ok a

theorem decoder_object_iff {r : Record α} {name : String} {a : α} :
    r.decoder name (.object ms) = .ok a ↔ r.Accepts ms a := by
  rw [Accepts, ← checkAll_eq_ok]
  exact bind_eq_ok.trans ⟨fun ⟨_, hcheck, hbuild⟩ => ⟨hcheck, hbuild⟩,
    fun ⟨hcheck, hbuild⟩ => ⟨(), hcheck, hbuild⟩⟩

/-- A list that gives every field is read as the object with the items under the keys. -/
theorem decoder_list_iff {r : Record α} [Declares r keys] [Complete r] [Lawful r]
    (h : keys.Nodup) {name : String} {js : List Json} {a : α} :
    r.decoder name (.list js) = .ok a ↔
      js.length = keys.length ∧ r.Accepts (keys.zip js) a := by
  have harity : r.arity = keys.length := Declares.arity_eq
  have hitems : js.length = keys.length →
      r.build (.items js name r.arity) 0 = r.build (.members (keys.zip js)) 0 := fun hlen =>
    Declares.build_items (Members.aligned_zip h hlen) (by omega) name _
  constructor
  · intro hread
    obtain ⟨b, hb, hlong⟩ := bind_eq_ok.1 hread
    split at hlong
    · cases hlong
    · cases hlong
      have hle := Complete.le_length hb
      have hlen : js.length = keys.length := by omega
      rw [hitems hlen] at hb
      refine ⟨hlen, fun m hm => ?_, hb⟩
      have hkeys : Members.keys (keys.zip js) = keys :=
        List.map_fst_zip (Nat.le_of_eq hlen.symm)
      exact Lawful.check_of_build hb (Members.get?_of_mem (hkeys.symm ▸ h) hm)
  · rintro ⟨hlen, -, hb⟩
    refine bind_eq_ok.2 ⟨a, (hitems hlen).trans hb, if_neg ?_⟩
    omega

/-- **What a record is read from**: the members of an object, or a list with an item for each of
its keys. -/
theorem decoder_eq_ok_iff {r : Record α} [Declares r keys] [Complete r] [Lawful r]
    (h : keys.Nodup) {name : String} {j : Json} {a : α} :
    r.decoder name j = .ok a ↔ ∃ ms, j.fields? keys = some ms ∧ r.Accepts ms a := by
  cases j with
  | object ms => simp [Json.fields?, decoder_object_iff]
  | list js =>
    rw [decoder_list_iff h]
    simp [Json.fields?, and_assoc]
  | _ => simp [decoder, Json.fields?]

/-- A member that is not declared changes nothing. -/
theorem decoder_ignores {r : Record α} [Declares r keys] {k : String} (hk : k ∉ keys)
    (name : String) (pre post : Members) (j : Json) :
    r.decoder name (.object (pre ++ (k, j) :: post)) = r.decoder name (.object (pre ++ post)) := by
  have hcheck : r.checkAll (pre ++ (k, j) :: post) = r.checkAll (pre ++ post) := by
    have hone : r.check k j = .ok () := Declares.check_of_notMem hk
    rw [checkAll_append, checkAll_append, checkAll, hone, ok_bind]
  have hbuild : r.build (.members (pre ++ (k, j) :: post)) 0 =
      r.build (.members (pre ++ post)) 0 := by
    refine Declares.build_congr (fun k' hk' => ?_) 0 0
    have hne : k' ≠ k := fun e => hk (e ▸ hk')
    simp [hne]
  rw [decoder, decoder, hcheck, hbuild]

/-! ## Field by field -/

theorem accepts_seq {f : Record (α → β)} {x : Record α} [Declares x keys] {b : β} :
    (f <*> x).Accepts ms b ↔ ∃ g a, f.Accepts ms g ∧ x.Accepts ms a ∧ g a = b := by
  have hcheck : ∀ m : String × Json, (f <*> x).check m.1 m.2 = .ok () ↔
      f.check m.1 m.2 = .ok () ∧ x.check m.1 m.2 = .ok () := fun m =>
    bind_eq_ok.trans ⟨fun ⟨_, hf, hx⟩ => ⟨hf, hx⟩, fun ⟨hf, hx⟩ => ⟨(), hf, hx⟩⟩
  have hbuild : x.build (.members ms) (0 + f.arity) = x.build (.members ms) 0 :=
    Declares.build_congr (fun _ _ => rfl) ..
  simp only [Accepts, hcheck, forall_and, build_seq, hbuild, bind_eq_ok, map_eq_ok]
  grind

theorem accepts_map {g : α → β} {x : Record α} {b : β} :
    (g <$> x).Accepts ms b ↔ ∃ a, x.Accepts ms a ∧ g a = b := by
  have hcheck : ∀ m : String × Json, (g <$> x).check m.1 m.2 = x.check m.1 m.2 := fun _ => rfl
  simp only [Accepts, hcheck, build_map, map_eq_ok, and_assoc, exists_and_left]

theorem check_field_eq_ok {d : Decoder α} {absent : Source → Nat → Except DecodeError α}
    {k : String} {j : Json} :
    (field key d absent).check k j = .ok () ↔ (k = key → ∃ a, d j = .ok a) := by
  show (if k = key then (d j).map fun _ => () else .ok ()) = .ok () ↔ _
  by_cases hk : k = key
  · simp [hk, map_eq_ok]
  · simp [hk]

/-- A field is read when each member with its key can be read. -/
theorem accepts_field {d : Decoder α} {absent : Source → Nat → Except DecodeError α} {a : α} :
    (field key d absent).Accepts ms a ↔ (∀ j, (key, j) ∈ ms → ∃ b, d j = .ok b) ∧
      (field key d absent).build (.members ms) 0 = .ok a := by
  refine and_congr_left fun _ => ?_
  simp only [check_field_eq_ok]
  constructor
  · exact fun h j hj => h _ hj rfl
  · rintro h ⟨_, j⟩ hm rfl
    exact h j hm

/-! ## Texts -/

section Texts

variable {d : Decoder α} {of : String → α} (hd : ∀ {j a}, d j = .ok a ↔ ∃ s, j = .text s ∧ of s = a)

include hd

theorem accepts_optional_text {o : Option α} :
    (optional key d).Accepts ms o ↔ ms.OptionalText key ∧ o = (ms.text? key).map of := by
  have hread : ∀ j, (∃ o, Decoder.option d j = .ok o) ↔ j = .null ∨ ∃ s, j = .text s := by
    intro j
    cases j <;> simp [Decoder.option_eq_ok, hd]
  refine (accepts_field (d := Decoder.option d)).trans ?_
  simp only [hread]
  refine and_congr_right fun htexts => build_optional_eq_ok.trans ?_
  rw [eq_comm (a := o) (b := (ms.text? key).map of), Members.text?]
  cases hget : ms.get? key with
  | none => simp [eq_comm]
  | some j =>
    rcases htexts j (Members.mem_of_get? hget) with rfl | ⟨s, rfl⟩ <;>
      simp [Json.text?, Decoder.option_eq_ok, hd]

theorem accepts_required_text {a : α} :
    (required key d).Accepts ms a ↔
      ms.RequiredText key ∧ some a = (ms.text? key).map of := by
  have hread : ∀ j, (∃ a, d j = .ok a) ↔ ∃ s, j = .text s := by
    intro j
    cases j <;> simp [hd]
  refine (accepts_field (d := d)).trans ?_
  rw [Members.RequiredText, and_comm (a := ∃ j, (key, j) ∈ ms), and_assoc]
  simp only [hread]
  refine and_congr_right fun htexts => build_required_eq_ok.trans ?_
  cases hget : ms.get? key with
  | none => simp [Members.text?, hget]
  | some j =>
    have hmem := Members.mem_of_get? hget
    obtain ⟨s, rfl⟩ := htexts j hmem
    have hthere : ∃ j, (key, j) ∈ ms := ⟨_, hmem⟩
    simp [Members.text?, hget, Json.text?, hd, hthere, eq_comm]

end Texts

end Record

end CredStore
