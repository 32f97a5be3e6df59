/-!
# Lists without repetition

A list that grows at its end, and only by what it does not hold yet: what was given first stays
where it is.
-/

namespace CredStore.Distinct

variable {α : Type} [DecidableEq α]

/-- `xs` with `x` at the end, unless `x` is in it. -/
def add (xs : List α) (x : α) : List α :=
  if x ∈ xs then xs else xs ++ [x]

/-- `xs` with each of `ys` added in turn. -/
def addAll (xs ys : List α) : List α :=
  ys.foldl add xs

/-- The members of `ys` in the order in which each is first given. -/
def ofList (ys : List α) : List α :=
  addAll [] ys

theorem mem_add {xs : List α} {x y : α} : y ∈ add xs x ↔ y ∈ xs ∨ y = x := by
  by_cases h : x ∈ xs
  · simp only [add, if_pos h]
    exact ⟨.inl, fun o => o.elim id fun e => e ▸ h⟩
  · simp [add, if_neg h]

theorem nodup_add {xs : List α} (h : xs.Nodup) (x : α) : (add xs x).Nodup := by
  by_cases hx : x ∈ xs
  · simpa only [add, if_pos hx] using h
  · simp only [add, if_neg hx]
    rw [List.nodup_append]
    refine ⟨h, by simp, ?_⟩
    intro a ha b hb e
    rw [List.mem_singleton] at hb
    exact hx (hb ▸ e ▸ ha)

theorem addAll_append (xs ys zs : List α) : addAll xs (ys ++ zs) = addAll (addAll xs ys) zs :=
  List.foldl_append

theorem mem_addAll {xs ys : List α} {y : α} : y ∈ addAll xs ys ↔ y ∈ xs ∨ y ∈ ys := by
  induction ys generalizing xs with
  | nil => simp [addAll]
  | cons z zs ih =>
    rw [addAll, List.foldl_cons, ← addAll, ih, mem_add]
    simp only [List.mem_cons]
    exact or_assoc

theorem nodup_addAll {xs : List α} (h : xs.Nodup) (ys : List α) : (addAll xs ys).Nodup := by
  induction ys generalizing xs with
  | nil => exact h
  | cons z zs ih => exact ih (nodup_add h z)

/-- What is added are the members that are new, each where it is first given. -/
theorem addAll_eq (xs ys : List α) :
    addAll xs ys = xs ++ (ys.filter fun y => y ∉ xs).eraseDups := by
  induction ys generalizing xs with
  | nil => simp [addAll]
  | cons z zs ih =>
    rw [addAll, List.foldl_cons, ← addAll, ih]
    by_cases hz : z ∈ xs
    · simp [add, hz]
    · have hfilter : (zs.filter fun y => y ∉ xs ++ [z]) =
          (zs.filter fun y => y ∉ xs).filter fun y => !y == z := by
        rw [List.filter_filter]
        exact List.filter_congr fun y _ => by by_cases h : y = z <;> simp [h]
      rw [add, if_neg hz, hfilter, List.filter_cons_of_pos (by simpa using hz),
        List.eraseDups_cons, List.append_assoc]
      rfl

/-- Later repetitions are dropped. -/
theorem ofList_eq_eraseDups (ys : List α) : ofList ys = ys.eraseDups := by
  rw [ofList, addAll_eq, List.filter_eq_self.2 (by simp), List.nil_append]

theorem eraseDups_of_nodup {ys : List α} (h : ys.Nodup) : ys.eraseDups = ys := by
  induction ys with
  | nil => rfl
  | cons y ys ih =>
    obtain ⟨hy, hys⟩ := List.nodup_cons.1 h
    have hne : ∀ z ∈ ys, (!z == y) = true := fun z hz => by
      simpa using fun e : z = y => hy (e ▸ hz)
    rw [List.eraseDups_cons, List.filter_eq_self.2 hne, ih hys]

end CredStore.Distinct
