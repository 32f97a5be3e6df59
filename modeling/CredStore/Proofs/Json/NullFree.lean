import CredStore.Json.Sorted

/-!
# Documents without null

A document is free of null when no null stands in it at any depth. Sorting keeps it so
(`NullFree.sorted`), and so does leaving out the members of optional fields that are unset
(`Members.nullFree_member?`).
-/

namespace CredStore

namespace Json

/-- No null stands in the document, at any depth. -/
inductive NullFree : Json → Prop
  | bool (b : Bool) : NullFree (.bool b)
  | number (n : Number) : NullFree (.number n)
  | text (s : String) : NullFree (.text s)
  | list {items : List Json} (h : ∀ j ∈ items, NullFree j) : NullFree (.list items)
  | object {members : Members} (h : ∀ m ∈ members, NullFree m.2) : NullFree (.object members)

attribute [simp] NullFree.bool NullFree.number NullFree.text

end Json

/-! ## Members -/

namespace Members

/-- No null stands in the value of a member. -/
def NullFree (ms : Members) : Prop :=
  ∀ m ∈ ms, m.2.NullFree

@[simp] theorem nullFree_nil : NullFree [] := nofun

@[simp] theorem nullFree_cons {m : String × Json} {ms : Members} :
    NullFree (m :: ms) ↔ m.2.NullFree ∧ NullFree ms :=
  List.forall_mem_cons

@[simp] theorem nullFree_append {ms ns : Members} :
    NullFree (ms ++ ns) ↔ NullFree ms ∧ NullFree ns :=
  List.forall_mem_append

/-- What is set is free of null, and what is not set is not there. -/
@[simp] theorem nullFree_member? {α : Type} {key : String} {f : α → Json} {o : Option α} :
    NullFree (Json.member? key f o) ↔ ∀ a, o = some a → (f a).NullFree := by
  cases o <;> simp [Json.member?]

end Members

namespace Json

@[simp] theorem nullFree_list {items : List Json} :
    (Json.list items).NullFree ↔ ∀ j ∈ items, j.NullFree :=
  ⟨fun | .list h => h, .list⟩

@[simp] theorem nullFree_object {members : Members} :
    (Json.object members).NullFree ↔ Members.NullFree members :=
  ⟨fun | .object h => h, .object⟩

/-! ## Sorting -/

theorem mem_sortedItems {items : List Json} {j : Json} (h : j ∈ sortedItems items) :
    ∃ i ∈ items, j = i.sorted := by
  induction items with
  | nil => cases h
  | cons i items ih =>
    rcases List.mem_cons.1 h with rfl | h
    · exact ⟨i, List.mem_cons_self, rfl⟩
    · obtain ⟨i', hi', rfl⟩ := ih h
      exact ⟨i', List.mem_cons_of_mem _ hi', rfl⟩

theorem mem_sortedMembers {members : Members} {m : String × Json}
    (h : m ∈ sortedMembers members) : ∃ n ∈ members, m = (n.1, n.2.sorted) := by
  induction members with
  | nil => cases h
  | cons n members ih =>
    rcases List.mem_cons.1 h with rfl | h
    · exact ⟨n, List.mem_cons_self, rfl⟩
    · obtain ⟨n', hn', rfl⟩ := ih h
      exact ⟨n', List.mem_cons_of_mem _ hn', rfl⟩

theorem NullFree.sorted {j : Json} (h : j.NullFree) : j.sorted.NullFree := by
  induction h with
  | bool b => exact .bool b
  | number n => exact .number n
  | text s => exact .text s
  | list h ih =>
    refine .list fun j hj => ?_
    obtain ⟨i, hi, rfl⟩ := mem_sortedItems hj
    exact ih i hi
  | object h ih =>
    refine .object fun m hm => ?_
    obtain ⟨n, hn, rfl⟩ := mem_sortedMembers (Members.mem_ofList hm)
    exact ih n hn

end Json

end CredStore
