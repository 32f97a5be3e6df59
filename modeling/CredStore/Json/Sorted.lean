import CredStore.Json.Basic

/-!
# Sorted documents

`Json.sorted` puts the members of every object in rising order of their keys, each key once. What
is sorted stays as it is (`Json.sorted_sorted`), and under each key the sorted object holds what
was given last (`Members.get?_ofList`). `SortedMembers` are the members of an object that is sorted.
-/

namespace CredStore

namespace Members

/-- The keys rise. -/
def Rising (o : Members) : Prop :=
  o.Pairwise fun a b => a.1 < b.1

theorem mem_insert {key : String} {value : Json} {o : Members} {m : String × Json}
    (h : m ∈ insert key value o) : m = (key, value) ∨ m ∈ o := by
  induction o with
  | nil => simpa [insert] using h
  | cons a rest ih =>
    obtain ⟨k, v⟩ := a
    unfold insert at h
    split at h
    · simpa using h
    · split at h
      · rcases List.mem_cons.1 h with rfl | h
        · exact .inl rfl
        · exact .inr (List.mem_cons_of_mem _ h)
      · rcases List.mem_cons.1 h with rfl | h
        · exact .inr List.mem_cons_self
        · exact (ih h).imp id (List.mem_cons_of_mem _)

theorem rising_insert {o : Members} (h : Rising o) (key : String) (value : Json) :
    Rising (insert key value o) := by
  induction o with
  | nil => simp [insert, Rising]
  | cons a rest ih =>
    obtain ⟨k, v⟩ := a
    obtain ⟨hk, hrest⟩ := List.pairwise_cons.1 h
    unfold insert
    split
    · rename_i hlt
      refine List.pairwise_cons.2 ⟨fun m hm => ?_, h⟩
      rcases List.mem_cons.1 hm with rfl | hm
      · exact hlt
      · exact String.lt_trans hlt (hk m hm)
    · rename_i hnlt
      split
      · rename_i heq
        subst heq
        exact List.pairwise_cons.2 ⟨hk, hrest⟩
      · rename_i hne
        refine List.pairwise_cons.2 ⟨fun m hm => ?_, ih hrest⟩
        rcases mem_insert hm with rfl | hm
        · exact Std.lt_of_le_of_ne (String.not_lt.1 hnlt) (Ne.symm hne)
        · exact hk m hm

theorem rising_foldl (ms : List (String × Json)) {o : Members} (h : Rising o) :
    Rising (ms.foldl (fun o m => insert m.1 m.2 o) o) := by
  induction ms generalizing o with
  | nil => exact h
  | cons m ms ih => exact ih (rising_insert h m.1 m.2)

theorem rising_ofList (ms : List (String × Json)) : Rising (ofList ms) :=
  rising_foldl ms List.Pairwise.nil

theorem mem_ofList {ms : List (String × Json)} {m : String × Json} (h : m ∈ ofList ms) :
    m ∈ ms := by
  have key : ∀ (ms : List (String × Json)) (o : Members),
      m ∈ ms.foldl (fun o m => insert m.1 m.2 o) o → m ∈ o ∨ m ∈ ms := by
    intro ms
    induction ms with
    | nil => exact fun o h => .inl h
    | cons a ms ih =>
      intro o h
      rcases ih _ h with h | h
      · rcases mem_insert h with rfl | h
        · exact .inr List.mem_cons_self
        · exact .inl h
      · exact .inr (List.mem_cons_of_mem _ h)
  simpa using key ms [] h

/-- A key above all others goes to the end. -/
theorem insert_of_lt {o : Members} {key : String} (h : ∀ m ∈ o, m.1 < key) (value : Json) :
    insert key value o = o ++ [(key, value)] := by
  induction o with
  | nil => rfl
  | cons a rest ih =>
    obtain ⟨k, v⟩ := a
    have hk : k < key := h (k, v) List.mem_cons_self
    unfold insert
    rw [if_neg (String.lt_asymm hk), if_neg (String.ne_of_lt hk).symm,
      ih fun m hm => h m (List.mem_cons_of_mem _ hm)]
    rfl

theorem ofList_of_rising {ms : List (String × Json)} (h : Rising ms) : ofList ms = ms := by
  have key : ∀ (ms o : Members), Rising (o ++ ms) →
      ms.foldl (fun o m => insert m.1 m.2 o) o = o ++ ms := by
    intro ms
    induction ms with
    | nil => exact fun o _ => (List.append_nil o).symm
    | cons a ms ih =>
      intro o h
      have ha : ∀ m ∈ o, m.1 < a.1 := fun m hm =>
        (List.pairwise_append.1 h).2.2 m hm a List.mem_cons_self
      rw [List.foldl_cons, insert_of_lt ha, ih _ (by simpa using h), List.append_assoc]
      rfl
  exact key ms [] h

/-! ## Lookups -/

@[simp] theorem get?_nil (k : String) : get? [] k = none := rfl

@[simp] theorem get?_cons (m : String × Json) (o : Members) (k : String) :
    get? (m :: o) k = if k = m.1 then some m.2 else get? o k := by
  unfold get?
  rw [List.lookup_cons]
  by_cases h : k = m.1
  · rw [if_pos h, beq_iff_eq.2 h]
  · rw [if_neg h, beq_eq_false_iff_ne.2 h]

@[simp] theorem get?_append (o p : Members) (k : String) :
    get? (o ++ p) k = (get? o k).or (get? p k) :=
  List.lookup_append

theorem get?_insert (key : String) (value : Json) (o : Members) (k : String) :
    get? (insert key value o) k = if k = key then some value else get? o k := by
  induction o with
  | nil => simp [insert]
  | cons a rest ih =>
    obtain ⟨k', v⟩ := a
    unfold insert
    split
    · rw [get?_cons]
    · split
      · rename_i heq
        subst heq
        by_cases h : k = key <;> simp [h]
      · rename_i hne
        rw [get?_cons, get?_cons, ih]
        by_cases h : k = key
        · rw [if_neg fun e => hne (h.symm.trans e), if_pos h, if_pos h]
        · rw [if_neg h, if_neg h]

/-- The sorted object holds what was given last. -/
theorem get?_ofList (ms : List (String × Json)) (k : String) :
    get? (ofList ms) k = get? ms.reverse k := by
  have key : ∀ (ms o : Members), get? (ms.foldl (fun o m => insert m.1 m.2 o) o) k =
      (get? ms.reverse k).or (get? o k) := by
    intro ms
    induction ms with
    | nil => exact fun o => rfl
    | cons a ms ih =>
      intro o
      rw [List.foldl_cons, ih, get?_insert, List.reverse_cons, get?_append]
      cases get? ms.reverse k with
      | some j => rfl
      | none => by_cases h : k = a.1 <;> simp [h]
  exact (key ms []).trans (Option.or_none ..)

end Members

namespace Json

theorem sortedMembers_of_fixed {ms : List (String × Json)} (h : ∀ m ∈ ms, m.2.sorted = m.2) :
    sortedMembers ms = ms := by
  induction ms with
  | nil => rfl
  | cons m rest ih =>
    rw [sortedMembers, h m List.mem_cons_self, ih fun a ha => h a (List.mem_cons_of_mem _ ha)]

theorem sortedItems_of_fixed {items : List Json} (h : ∀ j ∈ items, j.sorted = j) :
    sortedItems items = items := by
  induction items with
  | nil => rfl
  | cons j rest ih =>
    rw [sortedItems, h j List.mem_cons_self, ih fun i hi => h i (List.mem_cons_of_mem _ hi)]

theorem sorted_list_of_fixed {items : List Json} (h : ∀ j ∈ items, j.sorted = j) :
    (list items).sorted = .list items := by
  rw [sorted, sortedItems_of_fixed h]

theorem sortedItems_eq_map (items : List Json) : sortedItems items = items.map sorted := by
  induction items with
  | nil => rfl
  | cons j rest ih => rw [sortedItems, ih, List.map_cons]

theorem sorted_list (items : List Json) : (list items).sorted = .list (items.map sorted) := by
  rw [sorted, sortedItems_eq_map]

mutual

/-- What is sorted stays as it is. -/
theorem sorted_sorted : ∀ j : Json, j.sorted.sorted = j.sorted
  | .null | .bool _ | .number _ | .text _ => rfl
  | .list items => by simp only [sorted, sortedItems_sortedItems items]
  | .object ms => by
    have hfix : sortedMembers (Members.ofList (sortedMembers ms)) =
        Members.ofList (sortedMembers ms) :=
      sortedMembers_of_fixed fun m hm => sorted_of_mem ms m (Members.mem_ofList hm)
    simp only [sorted, hfix, Members.ofList_of_rising (Members.rising_ofList _)]

theorem sortedItems_sortedItems : ∀ items : List Json,
    sortedItems (sortedItems items) = sortedItems items
  | [] => rfl
  | j :: rest => by simp only [sortedItems, sorted_sorted j, sortedItems_sortedItems rest]

theorem sorted_of_mem : ∀ (ms : List (String × Json)), ∀ m ∈ sortedMembers ms, m.2.sorted = m.2
  | [], _, hm => absurd hm List.not_mem_nil
  | (k, j) :: rest, m, hm => by
    rcases List.mem_cons.1 hm with rfl | hm
    · exact sorted_sorted j
    · exact sorted_of_mem rest m hm

end

end Json

/-- The members of a sorted object. -/
structure SortedMembers where
  toList : Members
  isSorted : (Json.object toList).sorted = .object toList

namespace SortedMembers

instance : BEq SortedMembers where
  beq o p := o.toList == p.toList

/-- The members in any order, sorted; of two equal keys the later counts. -/
def ofList (ms : List (String × Json)) : SortedMembers :=
  ⟨.ofList (Json.sortedMembers ms), Json.sorted_sorted (.object ms)⟩

instance : Coe Members SortedMembers where
  coe := ofList

instance : CoeOut SortedMembers Members where
  coe := toList

/-- The keys in order. -/
def keys (o : SortedMembers) : List String :=
  o.toList.keys

/-- Sorted members are left as they are. -/
theorem ofList_toList (o : SortedMembers) : ofList o.toList = o := by
  obtain ⟨ms, h⟩ := o
  have hms : Members.ofList (Json.sortedMembers ms) = ms := Json.object.inj h
  simp only [ofList, hms]

end SortedMembers

end CredStore
