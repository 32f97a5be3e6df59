import CredStore.Proofs.Json.Fields
import Mathlib.Data.List.Nodup

/-!
# Shapes of documents

A `Shape` says which objects of a document are read as records, at any depth, and which fields these
records declare. Two things can then be said of documents without their decoders: that one is the
other with a member that should not matter (`Shape.Inserts`), and that one has a null where a field
has a value of its own for its absence (`Shape.Nulled`). A reader that `Follows` a shape makes the
same of the first two, and refuses the third. Records and lists follow their shapes if what stands
in them does, so a decoder follows its shape by the way it is put together.
-/

namespace CredStore

/-- What becomes of a field that is not there. -/
inductive Presence where
  | required
  | optional
  | defaulted

/-- A field that a record declares, with the shape of what stands under its key. -/
structure Slot (σ : Type) where
  key : String
  presence : Presence
  shape : σ

/-- The parts of a document that are read as records. -/
inductive Shape where
  /-- No part of the document is. -/
  | leaf
  | list (items : Shape)
  | record (fields : List (Slot Shape))
  /-- The document itself says what it is read as. -/
  | chosen (of : Json → Shape)

/-- The second document is the first with one more member in an object that is read as a record:
one that the record does not declare, or a null for an optional field that was missing. -/
inductive Shape.Inserts : Shape → Json → Json → Prop
  | member {fields : List (Slot Shape)} {pre post : Members} {key : String} {extra : Json} :
    key ∉ fields.map Slot.key →
    Inserts (.record fields) (.object (pre ++ post)) (.object (pre ++ (key, extra) :: post))
  | null {fields : List (Slot Shape)} {pre post : Members} {f : Slot Shape} :
    f ∈ fields → f.presence = .optional → Members.get? (pre ++ post) f.key = none →
    Inserts (.record fields) (.object (pre ++ post)) (.object (pre ++ (f.key, .null) :: post))
  | field {fields : List (Slot Shape)} {pre post : Members} {f : Slot Shape} {j j' : Json} :
    f ∈ fields → pre.get? f.key = none → Inserts f.shape j j' →
    Inserts (.record fields) (.object (pre ++ (f.key, j) :: post))
      (.object (pre ++ (f.key, j') :: post))
  | item {items : Shape} {pre post : List Json} {j j' : Json} :
    Inserts items j j' →
    Inserts (.list items) (.list (pre ++ j :: post)) (.list (pre ++ j' :: post))
  | chosen {of : Json → Shape} {j j' : Json} : Inserts (of j) j j' → Inserts (.chosen of) j j'

/-- Somewhere in the document a field that has a default is null. -/
inductive Shape.Nulled : Shape → Json → Prop
  | null {fields : List (Slot Shape)} {ms : Members} {f : Slot Shape} :
    f ∈ fields → f.presence = .defaulted → (f.key, .null) ∈ ms →
    Nulled (.record fields) (.object ms)
  | field {fields : List (Slot Shape)} {ms : Members} {f : Slot Shape} {j : Json} :
    f ∈ fields → (f.key, j) ∈ ms → Nulled f.shape j → Nulled (.record fields) (.object ms)
  | item {items : Shape} {js : List Json} {j : Json} :
    j ∈ js → Nulled items j → Nulled (.list items) (.list js)
  | chosen {of : Json → Shape} {j : Json} : Nulled (of j) j → Nulled (.chosen of) j

namespace Shape

variable {s : Shape} {j j' : Json}

theorem Inserts.ne_null (h : s.Inserts j j') : j ≠ .null ∧ j' ≠ .null := by
  induction h with
  | member | null | field | item => exact ⟨nofun, nofun⟩
  | chosen _ ih => exact ih

theorem Nulled.ne_null (h : s.Nulled j) : j ≠ .null := by
  induction h with
  | null | field | item => exact nofun
  | chosen _ ih => exact ih

@[simp] theorem not_nulled_leaf : ¬ Shape.leaf.Nulled j :=
  nofun

theorem not_nulled_record {fields : List (Slot Shape)}
    (h : ∀ f ∈ fields, f.presence ≠ .defaulted ∧ ∀ j, ¬ f.shape.Nulled j) :
    ¬ (record fields).Nulled j := by
  intro hj
  cases hj with
  | null hf hp _ => exact (h _ hf).1 hp
  | field hf _ hj => exact (h _ hf).2 _ hj

end Shape

/-! ## Readers -/

section Readers

variable {ε ε' α β : Type}

/-- The reader does not notice what is inserted, and wants no null for a field with a default. -/
class Follows (f : Json → Except ε α) (s : outParam Shape) : Prop where
  inserts : ∀ {j j'}, s.Inserts j j' → f j = f j'
  nulled : ∀ {j}, s.Nulled j → ∃ e, f j = .error e

/-- Where no part is read as a record there is nowhere to insert anything. -/
instance (priority := low) (f : Json → Except ε α) : Follows f .leaf where
  inserts := nofun
  nulled := nofun

theorem Follows.map {f : Json → Except ε α} {s : Shape} (h : Follows f s) (g : α → β) :
    Follows (fun j => (f j).map g) s where
  inserts hj := by rw [h.inserts hj]
  nulled hj := by
    obtain ⟨e, he⟩ := h.nulled hj
    exact ⟨e, by rw [he, map_error]⟩

theorem Follows.mapError {f : Json → Except ε α} {s : Shape} (h : Follows f s) (g : ε → ε') :
    Follows (fun j => (f j).mapError g) s where
  inserts hj := by rw [h.inserts hj]
  nulled hj := by
    obtain ⟨e, he⟩ := h.nulled hj
    exact ⟨g e, by rw [he, mapError_error]⟩

variable {d : Decoder α} {s : Shape}

instance [Follows d s] (rule : α → Outcome β) : Follows (d.ruled rule) s where
  inserts hj := Decoder.ruled_congr (Follows.inserts hj)
  nulled {j} hj := by
    obtain ⟨e, he⟩ := Follows.nulled (f := d) hj
    exact ⟨e, by simp [Decoder.ruled, Decoder.checked, he]⟩

instance [Follows d s] : Follows (Decoder.list d) (.list s) where
  inserts hj := by
    cases hj with
    | item hj => simp only [Decoder.list, List.mapM_append, List.mapM_cons, Follows.inserts hj]
  nulled hj := by
    cases hj with
    | @item _ js j hmem hj =>
      obtain ⟨e, he⟩ := Follows.nulled (f := d) hj
      cases hread : js.mapM d with
      | error e' => exact ⟨e', hread⟩
      | ok as =>
        obtain ⟨a, ha⟩ := exists_map_eq_ok.1 ⟨as, mapM_eq_ok.1 hread⟩ j hmem
        cases he.symm.trans ha

theorem Decoder.option_of_ne_null {j : Json} (h : j ≠ .null) :
    Decoder.option d j = (d j).map some := by
  cases j with
  | null => exact absurd rfl h
  | _ => rfl

instance [Follows d s] : Follows (Decoder.option d) s where
  inserts hj := by
    rw [Decoder.option_of_ne_null hj.ne_null.1, Decoder.option_of_ne_null hj.ne_null.2,
      Follows.inserts (f := d) hj]
  nulled hj := by
    obtain ⟨e, he⟩ := Follows.nulled (f := d) hj
    exact ⟨e, by rw [Decoder.option_of_ne_null hj.ne_null, he, map_error]⟩

/-- Null is not what the decoder reads. -/
class RefusesNull (d : Decoder α) : Prop where
  refuses : ∃ e, d .null = .error e

instance : RefusesNull (Decoder.list d) := ⟨_, rfl⟩

instance : RefusesNull Decoder.bool := ⟨_, rfl⟩

end Readers

/-! ## Records -/

/-- A member does not matter for other keys. -/
theorem Members.get?_of_ne {pre post : Members} {k k' : String} {j : Json} (h : k' ≠ k) :
    get? (pre ++ (k, j) :: post) k' = get? (pre ++ post) k' := by
  simp only [get?_append, get?_cons, if_neg h]

namespace Slot

/-- What may stand under the key before and after an insertion. -/
inductive Sees (f : Slot Shape) : Option Json → Option Json → Prop
  | same (o : Option Json) : Sees f o o
  | changed {j j' : Json} : f.shape.Inserts j j' → Sees f (some j) (some j')
  | null : f.presence = .optional → Sees f none (some .null)

section

variable {f : Slot Shape} {pre post : Members} {j j' : Json}

theorem sees_null (hp : f.presence = .optional) (h : Members.get? (pre ++ post) f.key = none) :
    f.Sees (Members.get? (pre ++ post) f.key)
      (Members.get? (pre ++ (f.key, .null) :: post) f.key) := by
  rw [h]
  rw [Members.get?_append, Option.or_eq_none_iff] at h
  rw [Members.get?_append, h.1, Members.get?_cons, if_pos rfl]
  exact .null hp

theorem sees_changed (h : pre.get? f.key = none) (hj : f.shape.Inserts j j') :
    f.Sees (Members.get? (pre ++ (f.key, j) :: post) f.key)
      (Members.get? (pre ++ (f.key, j') :: post) f.key) := by
  simp only [Members.get?_append, Members.get?_cons, h]
  exact .changed hj

end

/-- A null for a default stands under the key, or further below. -/
def Bad (f : Slot Shape) (j : Json) : Prop :=
  (f.presence = .defaulted ∧ j = .null) ∨ f.shape.Nulled j

end Slot

namespace Record

variable {α β : Type} {fields xs : List (Slot Shape)}

/-- The record follows the shapes of its fields. -/
class Follows (r : Record α) (fields : outParam (List (Slot Shape))) : Prop where
  declares : r.Declares (fields.map Slot.key)
  check_congr : ∀ {k j j'}, (∀ f ∈ fields, f.key = k → f.shape.Inserts j j') →
    r.check k j = r.check k j'
  check_null : ∀ {k}, (∀ f ∈ fields, f.key = k → f.presence = .optional) →
    r.check k .null = .ok ()
  check_bad : ∀ {f j}, f ∈ fields → f.Bad j → ∃ e, r.check f.key j = .error e
  build_congr : ∀ {ms ms' : Members},
    (∀ f ∈ fields, f.Sees (ms.get? f.key) (ms'.get? f.key)) → ∀ i,
      r.build (.members ms) i = r.build (.members ms') i

/-! ### Single fields -/

section Fields

variable {key : String} {d : Decoder α} {s : Shape}

theorem follows_field {p : Presence} {absent : Source → Nat → Except DecodeError α}
    (hd : CredStore.Follows d s)
    (habsent : ∀ ms ms' i i', absent (.members ms) i = absent (.members ms') i')
    (hoptional : p = .optional → ∃ a, d .null = .ok a ∧ ∀ ms i, absent (.members ms) i = .ok a)
    (hdefault : p = .defaulted → ∃ e, d .null = .error e) :
    (field key d absent).Follows [⟨key, p, s⟩] where
  declares := declares_field habsent
  check_congr {k j j'} h := by
    show (if k = key then (d j).map fun _ => () else .ok ()) =
      if k = key then (d j').map fun _ => () else .ok ()
    split
    · rename_i hk
      rw [hd.inserts (h _ (List.mem_singleton.2 rfl) hk.symm)]
    · rfl
  check_null {k} h := by
    refine check_field_eq_ok.2 fun hk => ?_
    obtain ⟨a, ha, -⟩ := hoptional (h _ (List.mem_singleton.2 rfl) hk.symm)
    exact ⟨a, ha⟩
  check_bad {f j} hf hbad := by
    obtain rfl := List.mem_singleton.1 hf
    have hread : ∃ e, d j = .error e := by
      rcases hbad with ⟨hp, rfl⟩ | hj
      · exact hdefault hp
      · exact hd.nulled hj
    obtain ⟨e, he⟩ := hread
    exact ⟨e, by simp [field, he]⟩
  build_congr {ms ms'} h i := by
    have hsees := h _ (List.mem_singleton.2 rfl)
    generalize hms : ms.get? key = o at hsees
    generalize hms' : ms'.get? key = o' at hsees
    simp only [field, Source.field?, hms, hms']
    cases hsees with
    | same =>
      cases o with
      | none => exact habsent ..
      | some j => rfl
    | changed hj => exact hd.inserts hj
    | null hp =>
      obtain ⟨a, ha, habsent⟩ := hoptional hp
      exact (habsent ..).trans ha.symm

variable [hd : CredStore.Follows d s]

instance : (required key d).Follows [⟨key, .required, s⟩] :=
  follows_field hd (fun _ _ _ _ => rfl) nofun nofun

instance : (optional key d).Follows [⟨key, .optional, s⟩] :=
  follows_field inferInstance (fun _ _ _ _ => rfl) (fun _ => ⟨none, rfl, fun _ _ => rfl⟩) nofun

instance {a : α} [RefusesNull d] : (defaulted key a d).Follows [⟨key, .defaulted, s⟩] :=
  follows_field hd (fun _ _ _ _ => rfl) nofun fun _ => RefusesNull.refuses

end Fields

/-! ### Several fields -/

section Combined

variable {f : Record (α → β)} {x : Record α} {fs : List (Slot Shape)}

instance [hf : Follows f fs] [hx : Follows x xs] : Follows (f <*> x) (fs ++ xs) where
  declares := by
    have := hf.declares
    have := hx.declares
    rw [List.map_append]
    infer_instance
  check_congr {k j j'} h := by
    show (f.check k j).bind (fun _ => x.check k j) = (f.check k j').bind fun _ => x.check k j'
    rw [hf.check_congr fun g hg => h g (List.mem_append_left _ hg),
      hx.check_congr fun g hg => h g (List.mem_append_right _ hg)]
  check_null h := by
    refine bind_eq_ok.2 ⟨(), ?_, ?_⟩
    · exact hf.check_null fun g hg => h g (List.mem_append_left _ hg)
    · exact hx.check_null fun g hg => h g (List.mem_append_right _ hg)
  check_bad {g j} hg hbad := by
    have hcheck : (f <*> x).check g.key j = (f.check g.key j).bind fun _ => x.check g.key j := rfl
    rw [hcheck]
    rcases List.mem_append.1 hg with hg | hg
    · obtain ⟨e, he⟩ := hf.check_bad hg hbad
      exact ⟨e, by rw [he, error_bind]⟩
    · obtain ⟨e, he⟩ := hx.check_bad hg hbad
      cases f.check g.key j with
      | ok _ => exact ⟨e, he⟩
      | error e' => exact ⟨e', rfl⟩
  build_congr h i := by
    rw [build_seq, build_seq, hf.build_congr fun g hg => h g (List.mem_append_left _ hg),
      hx.build_congr fun g hg => h g (List.mem_append_right _ hg)]

instance {g : α → β} [hx : Follows x xs] : Follows (g <$> x) xs where
  declares := by
    have := hx.declares
    infer_instance
  check_congr := hx.check_congr
  check_null := hx.check_null
  check_bad := hx.check_bad
  build_congr h i := by
    rw [build_map, build_map, hx.build_congr h]

end Combined

/-! ### Decoders of records -/

variable {r : Record α} {pre post : Members} {k : String} {j j' : Json}

theorem checkAll_insert (h : r.check k j = .ok ()) :
    r.checkAll (pre ++ (k, j) :: post) = r.checkAll (pre ++ post) := by
  rw [checkAll_append, checkAll_append, checkAll, h, ok_bind]

theorem checkAll_replace (h : r.check k j = r.check k j') :
    r.checkAll (pre ++ (k, j) :: post) = r.checkAll (pre ++ (k, j') :: post) := by
  rw [checkAll_append, checkAll_append, checkAll, checkAll, h]

theorem checkAll_eq_error {ms : Members} (hmem : (k, j) ∈ ms) (h : ∃ e, r.check k j = .error e) :
    ∃ e, r.checkAll ms = .error e := by
  obtain ⟨e, he⟩ := h
  cases hall : r.checkAll ms with
  | error e' => exact ⟨e', rfl⟩
  | ok _ => cases he.symm.trans (checkAll_eq_ok.1 hall _ hmem)

/-- **A record follows its fields**, if their keys differ. -/
theorem follows_decoder [hr : Follows r fields] (h : (fields.map Slot.key).Nodup) (name : String) :
    CredStore.Follows (r.decoder name) (.record fields) where
  inserts hj := by
    have := hr.declares
    -- of the fields with a key there is one only
    have hkey : ∀ {f g : Slot Shape}, f ∈ fields → g ∈ fields → g.key = f.key → g = f :=
      fun hf hg hkey => List.inj_on_of_nodup_map h hg hf hkey
    cases hj with
    | member hk => exact (decoder_ignores hk name _ _ _).symm
    | @null _ pre post f hf hp hnone =>
      have hcheck : r.check f.key .null = .ok () :=
        hr.check_null fun g hg hk => hkey hf hg hk ▸ hp
      rw [decoder, decoder, checkAll_insert hcheck, hr.build_congr fun g hg => ?_]
      by_cases hk : g.key = f.key
      · obtain rfl := hkey hf hg hk
        exact Slot.sees_null hp hnone
      · rw [Members.get?_of_ne hk]
        exact .same _
    | @field _ pre post f j j' hf hpre hj =>
      have hcheck : r.check f.key j = r.check f.key j' :=
        hr.check_congr fun g hg hk => hkey hf hg hk ▸ hj
      rw [decoder, decoder, checkAll_replace hcheck, hr.build_congr fun g hg => ?_]
      by_cases hk : g.key = f.key
      · obtain rfl := hkey hf hg hk
        exact Slot.sees_changed hpre hj
      · rw [Members.get?_of_ne hk, Members.get?_of_ne hk]
        exact .same _
  nulled hj := by
    have hbad : ∀ {ms : Members} {f j}, f ∈ fields → (f.key, j) ∈ ms → f.Bad j →
        ∃ e, r.decoder name (.object ms) = .error e := by
      intro ms f j hf hmem hbad
      obtain ⟨e, he⟩ := checkAll_eq_error hmem (hr.check_bad hf hbad)
      exact ⟨e, by rw [decoder, he, error_bind]⟩
    cases hj with
    | null hf hp hmem => exact hbad hf hmem (.inl ⟨hp, rfl⟩)
    | field hf hmem hj => exact hbad hf hmem (.inr hj)

/-- What a rule makes of a record follows the fields too. -/
theorem follows_ruled [Follows r fields] (h : (fields.map Slot.key).Nodup) (name : String)
    (rule : α → Outcome β) :
    CredStore.Follows ((r.decoder name).ruled rule) (.record fields) := by
  have hrecord : CredStore.Follows (r.decoder name) (.record fields) := follows_decoder h name
  infer_instance

end Record

end CredStore
