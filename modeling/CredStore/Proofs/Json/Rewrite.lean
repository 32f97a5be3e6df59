import CredStore.Listing
import CredStore.Proofs.Json.Record

/-!
# Documents that are read and written again

A document says the same in many ways: members in another order, unset fields as nulls, records as
lists. Writing what was read gives one of them. `Decoder.Restores d f kept` says that this one is
read as what was read before, but for what `kept` leaves out, so that reading and writing once more
changes nothing (`Restores.rewrite_fixed`).
-/

namespace CredStore

namespace Decoder

variable {α : Type} {d : Decoder α} {f : α → Json} {kept : α → α}

/-- `a` is read from some document. -/
def Reads (d : Decoder α) (a : α) : Prop :=
  ∃ j, d j = .ok a

/-- The document that `f` writes of what `d` reads. -/
def rewrite (d : Decoder α) (f : α → Json) (j : Json) : Except DecodeError Json :=
  (d j).map fun a => (f a).sorted

/-- What `d` reads and `f` writes is read as the same, but for what `kept` leaves out, and that is
written as the same. -/
structure Restores (d : Decoder α) (f : α → Json) (kept : α → α) : Prop where
  decoder_toJson : ∀ {a}, d.Reads a → d (f a).sorted = .ok (kept a)
  toJson_kept : ∀ {a}, d.Reads a → f (kept a) = f a

theorem restores_id (h : ∀ a, d (f a).sorted = .ok a) : Restores d f id where
  decoder_toJson _ := h _
  toJson_kept _ := rfl

theorem Restores.rewrite_fixed (h : Restores d f kept) {j j' : Json}
    (hj : d.rewrite f j = .ok j') : d.rewrite f j' = .ok j' := by
  obtain ⟨a, ha, rfl⟩ := map_eq_ok.1 hj
  refine map_eq_ok.2 ⟨kept a, h.decoder_toJson ⟨j, ha⟩, ?_⟩
  rw [h.toJson_kept ⟨j, ha⟩]

/-! ## Lists -/

theorem reads_of_list {as : List α} (h : (list d).Reads as) : ∀ a ∈ as, d.Reads a := by
  obtain ⟨j, hj⟩ := h
  obtain ⟨js, -, hjs⟩ := list_eq_ok.1 hj
  intro a ha
  obtain ⟨j, -, hj⟩ := List.mem_map.1 (hjs ▸ List.mem_map_of_mem ha)
  exact ⟨j, hj⟩

theorem list_toJson_eq_ok {as bs : List α} (h : as.map (fun a => d (f a).sorted) = bs.map .ok) :
    list d (Json.list (as.map f)).sorted = .ok bs := by
  refine list_eq_ok.2 ⟨_, Json.sorted_list _, ?_⟩
  rw [List.map_map, List.map_map]
  exact h

/-- Each member of a list is read back from its document. -/
theorem map_toJson (h : ∀ a, d (f a).sorted = .ok a) (as : List α) :
    ((as.map f).map Json.sorted).map d = as.map .ok := by
  rw [List.map_map, List.map_map]
  exact List.map_congr_left fun a _ => h a

theorem Restores.list_toJson (h : Restores d f kept) {as : List α} (has : ∀ a ∈ as, d.Reads a) :
    Decoder.list d (Json.list (as.map f)).sorted = .ok (as.map kept) := by
  refine list_toJson_eq_ok ?_
  rw [List.map_map]
  exact List.map_congr_left fun a ha => h.decoder_toJson (has a ha)

theorem Restores.map_kept (h : Restores d f kept) {as : List α} (has : ∀ a ∈ as, d.Reads a) :
    (as.map kept).map f = as.map f := by
  rw [List.map_map]
  exact List.map_congr_left fun a ha => h.toJson_kept (has a ha)

theorem Restores.list (h : Restores d f kept) :
    Restores (Decoder.list d) (fun as => .list (as.map f)) (List.map kept) where
  decoder_toJson has := h.list_toJson (reads_of_list has)
  toJson_kept has := congrArg Json.list (h.map_kept (reads_of_list has))

end Decoder

/-! ## Records -/

namespace Record

variable {α β : Type} {s : Source} {i : Nat} {key : String}

open Decoder (Reads Restores)

theorem exists_build {r : Record α} {name : String} {a : α} (h : Reads (r.decoder name) a) :
    ∃ s, r.build s 0 = .ok a := by
  obtain ⟨j, hj⟩ := h
  cases j with
  | object ms =>
    obtain ⟨_, -, hb⟩ := bind_eq_ok.1 hj
    exact ⟨_, hb⟩
  | list js =>
    obtain ⟨b, hb, h⟩ := bind_eq_ok.1 hj
    split at h
    · cases h
    · cases h
      exact ⟨_, hb⟩
  | _ => cases hj

theorem build_seq_eq_ok {f : Record (α → β)} {x : Record α} {b : β} :
    (f <*> x).build s i = .ok b ↔
      ∃ g a, f.build s i = .ok g ∧ x.build s (i + f.arity) = .ok a ∧ g a = b := by
  simp only [build_seq, bind_eq_ok, map_eq_ok]
  grind

theorem reads_of_required {d : Decoder α} {a : α} (h : (required key d).build s i = .ok a) :
    d.Reads a := by
  simp only [required, field] at h
  split at h
  · exact ⟨_, h⟩
  · cases h

theorem reads_of_optional {d : Decoder α} {o : Option α}
    (h : (optional key d).build s i = .ok o) : ∀ a ∈ o, d.Reads a := by
  rintro a rfl
  simp only [optional, field] at h
  split at h
  · obtain ⟨_, h⟩ | ⟨-, b, hb, h⟩ := Decoder.option_eq_ok.1 h
    · cases h
    · cases h
      exact ⟨_, hb⟩
  · split at h <;> cases h

theorem reads_of_defaulted {d : Decoder α} {value a : α}
    (h : (defaulted key value d).build s i = .ok a) : a = value ∨ d.Reads a := by
  simp only [defaulted, field] at h
  split at h
  · exact .inr ⟨_, h⟩
  · cases h
    exact .inl rfl

/-! ## Fields -/

section Fields

variable {ms : Members} {d : Decoder α} {f : α → Json} {kept : α → α}

theorem build_required_restored {a : α} (h : Restores d f kept) (ha : d.Reads a)
    (hget : ms.get? key = some (f a).sorted) :
    (required key d).build (.members ms) i = .ok (kept a) :=
  build_required_of hget (h.decoder_toJson ha)

theorem build_defaulted_restored {value a : α} (h : Restores d f kept) (ha : d.Reads a)
    (hget : ms.get? key = some (f a).sorted) :
    (defaulted key value d).build (.members ms) i = .ok (kept a) :=
  build_defaulted_eq_ok.2 (.inr ⟨_, hget, h.decoder_toJson ha⟩)

/-- An optional field is read back when nothing that is set is written as a null. -/
theorem build_optional_restored {o : Option α} (h : Restores d f id) (ho : ∀ a ∈ o, d.Reads a)
    (hnull : ∀ a, (f a).sorted ≠ .null) (hget : ms.get? key = o.map (Json.sorted ∘ f)) :
    (optional key d).build (.members ms) i = .ok o :=
  build_optional_of_written (fun a ha =>
    Decoder.option_eq_ok.2 (.inr ⟨hnull a, a, h.decoder_toJson (ho a ha), rfl⟩)) hget

end Fields

end Record

/-! ## Listings -/

namespace Decoder

variable {α : Type} {d : Decoder α} {f : α → Json} {kept : α → α}

theorem reads_of_listing {record key : String} {as : List α} (h : (listing record key d).Reads as) :
    ∀ a ∈ as, d.Reads a := by
  obtain ⟨s, hs⟩ := Record.exists_build h
  rcases Record.reads_of_defaulted hs with rfl | has
  · exact fun _ => nofun
  · exact reads_of_list has

/-- A listing that was left out is written as an empty one. -/
theorem Restores.listing (h : Restores d f kept) (record key : String) :
    Restores (CredStore.listing record key d) (listingToJson key f) (List.map kept) where
  decoder_toJson {as} has := by
    have hlist := h.list_toJson (reads_of_listing has)
    refine (Record.decoder_sorted_eq_ok _).2 (Record.build_defaulted_eq_ok.2 (.inr ⟨_, ?_, hlist⟩))
    simp
  toJson_kept {as} has := by
    rw [listingToJson, listingToJson, h.map_kept (reads_of_listing has)]

end Decoder

end CredStore
