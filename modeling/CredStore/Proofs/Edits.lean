/-!
# What edits leave behind

A draft is changed by one edit after another. A part that each edit sets or leaves alone holds,
after any edits, what was set last (`foldl_last`); a part to which each edit adds something holds
all that was added, in order (`foldl_grow`).
-/

namespace CredStore.Edits

variable {δ ε γ : Type} {edit : δ → ε → δ} {part : δ → Option γ} {sets : ε → Option γ}

/-- **The last setting counts.** A part that an edit sets or leaves alone is what was set last, and
what it was before if it was not set. -/
theorem foldl_last (hedit : ∀ d e, part (edit d e) = (sets e).or (part d)) (es : List ε) (d : δ) :
    part (es.foldl edit d) = ((es.filterMap sets).getLast?).or (part d) := by
  induction es generalizing d with
  | nil => rfl
  | cons e es ih =>
    rw [List.foldl_cons, ih, hedit]
    cases he : sets e with
    | none => rw [List.filterMap_cons_none he, Option.none_or]
    | some c =>
      rw [List.filterMap_cons_some he, Option.some_or]
      cases hlast : (es.filterMap sets).getLast? with
      | none => rw [List.getLast?_eq_none_iff.1 hlast]; rfl
      | some c' => simp [List.getLast?_cons, hlast]

/-- **Additions go together.** A part to which an edit adds what it gives holds what it held before,
and all that the edits give. -/
theorem foldl_grow {α κ : Type} (part : δ → κ) (grow : κ → List α → κ) {given : ε → List α}
    (hnil : ∀ c, grow c [] = c)
    (happend : ∀ c as bs, grow c (as ++ bs) = grow (grow c as) bs)
    (hedit : ∀ d e, part (edit d e) = grow (part d) (given e)) (es : List ε) (d : δ) :
    part (es.foldl edit d) = grow (part d) (es.flatMap given) := by
  induction es generalizing d with
  | nil => exact (hnil _).symm
  | cons e es ih => rw [List.foldl_cons, ih, hedit, List.flatMap_cons, happend]

/-- Something was set last when something was set at all. -/
theorem isSome_last_iff (es : List ε) :
    ((es.filterMap sets).getLast?).isSome ↔ ∃ e ∈ es, (sets e).isSome := by
  rw [Option.isSome_iff_ne_none, ne_eq, List.getLast?_eq_none_iff, List.filterMap_eq_nil_iff]
  simp [Option.isSome_iff_ne_none]

end CredStore.Edits
