import CredStore.Proofs.Json.Decode
import CredStore.Proofs.Text.Percent
import CredStore.Request.Basic

/-!
# Filled templates

`Fills ps vs cs`: the text `cs` is made of the pieces `ps` with the encoded variables `vs` in the
places of the placeholders. Filling gives exactly these texts (`fillPieces_eq_ok_iff`). So the path
of a request to a route begins with `/`, and nothing in it but the delimiters of its template is
reserved (`Route.path_shape`).
-/

namespace CredStore

namespace Template

open Text.Percent

/-- `cs` is made of the pieces, with a variable for each placeholder, in order. -/
inductive Fills : List Piece → List String → List Char → Prop
  | nil : Fills [] [] []
  | literal {ps vs cs} (s : List Char) : Fills ps vs cs → Fills (.literal s :: ps) vs (s ++ cs)
  | placeholder {ps vs cs} (name : List Char) (v : String) : Fills ps vs cs →
    Fills (.placeholder name :: ps) (v :: vs) ((encodeComponent v).toList ++ cs)

variable {template : String} {ps : List Piece} {vs : List String} {cs : List Char}

/-- **Filling a template puts the encoded variables in the places of the placeholders.** -/
theorem fillPieces_eq_ok_iff : fillPieces template ps vs = .ok cs ↔ Fills ps vs cs := by
  refine ⟨fun h => ?_, fun h => ?_⟩
  · fun_induction fillPieces template ps vs generalizing cs with
    | case1 =>
      cases h
      exact .nil
    | case3 s rest vs ih =>
      obtain ⟨cs, hcs, rfl⟩ := map_eq_ok.1 h
      exact .literal s (ih hcs)
    | case4 name rest v vs ih =>
      obtain ⟨cs, hcs, rfl⟩ := map_eq_ok.1 h
      exact .placeholder name v (ih hcs)
    | _ => cases h
  · induction h with
    | nil => rfl
    | literal s _ ih => rw [fillPieces, ih, map_ok]
    | placeholder name v _ ih => rw [fillPieces, ih, map_ok]

theorem fill_eq_ok_iff {p : String} :
    fill template vs = .ok p ↔ Fills (pieces template) vs p.toList := by
  unfold fill
  rw [map_eq_ok]
  refine ⟨?_, fun h => ⟨p.toList, fillPieces_eq_ok_iff.2 h, String.ofList_toList⟩⟩
  rintro ⟨cs, hcs, rfl⟩
  rw [String.toList_ofList]
  exact fillPieces_eq_ok_iff.1 hcs

/-- The number of placeholders. -/
def arity : List Piece → Nat
  | [] => 0
  | .placeholder _ :: ps => arity ps + 1
  | _ :: ps => arity ps

theorem Fills.arity_eq (h : Fills ps vs cs) : arity ps = vs.length := by
  induction h with
  | nil => rfl
  | literal s _ ih => exact ih
  | placeholder name v _ ih => exact congrArg (· + 1) ih

/-- What stands in a filled template stands in one of its literals, or is encoded. -/
theorem Fills.mem (h : Fills ps vs cs) {c : Char} (hc : c ∈ cs) :
    (∃ s, .literal s ∈ ps ∧ c ∈ s) ∨ isComponent c := by
  induction h with
  | nil => exact absurd hc List.not_mem_nil
  | literal s _ ih =>
    rcases List.mem_append.1 hc with hc | hc
    · exact .inl ⟨s, List.mem_cons_self, hc⟩
    · exact (ih hc).imp (fun ⟨t, ht, hct⟩ => ⟨t, List.mem_cons_of_mem _ ht, hct⟩) id
  | placeholder name v _ ih =>
    rcases List.mem_append.1 hc with hc | hc
    · exact .inr (isComponent_of_mem hc)
    · exact (ih hc).imp (fun ⟨t, ht, hct⟩ => ⟨t, List.mem_cons_of_mem _ ht, hct⟩) id

end Template

/-! ## Routes -/

namespace Route

open Template

/-- What may stand in the path of a request to a route. -/
def inPath (c : Char) : Bool :=
  Text.Percent.isComponent c || c == '/' || c == '?' || c == '&' || c == '='

/-- What may stand in a path is ASCII, so that a decidable property of all of it can be tried
out. -/
theorem forall_inPath {P : Char → Prop} (h : ∀ n < 0x80, inPath (Char.ofNat n) → P (Char.ofNat n))
    {c : Char} (hc : inPath c) : P c := by
  have hlt : c.toNat < 0x80 := by
    simp only [inPath, Bool.or_eq_true, beq_iff_eq] at hc
    rcases hc with (((hc | rfl) | rfl) | rfl) | rfl
    · exact Text.Percent.toNat_lt_of_isComponent hc
    all_goals decide
  rw [← Char.ofNat_toNat c] at hc ⊢
  exact h _ hlt hc

theorem inPath_of_literal (r : Route) {s : List Char} (h : .literal s ∈ pieces r.template)
    {c : Char} (hc : c ∈ s) : inPath c := by
  have key : ∀ p ∈ pieces r.template, ∀ s, p = .literal s → ∀ c ∈ s, inPath c := by
    have hall : (pieces r.template).all fun p =>
        match p with
        | .literal s => s.all inPath
        | _ => true := by
      cases r <;> decide +kernel
    intro p hp s hs c hc
    subst hs
    exact List.all_eq_true.1 (List.all_eq_true.1 hall _ hp) c hc
  exact key _ h s rfl c hc

theorem pieces_template (r : Route) :
    ∃ s ps, pieces r.template = .literal ('/' :: s) :: ps := by
  cases r <;> exact ⟨_, _, rfl⟩

/-- The path of a request to a route begins with `/` and holds nothing reserved but delimiters. -/
theorem path_shape {r : Route} {vs : List String} {p : String}
    (h : fill r.template vs = .ok p) :
    (∃ cs, p.toList = '/' :: cs) ∧ ∀ c ∈ p.toList, inPath c := by
  have hfills := fill_eq_ok_iff.1 h
  refine ⟨?_, fun c hc => ?_⟩
  · obtain ⟨s, ps, hps⟩ := pieces_template r
    rw [hps] at hfills
    generalize p.toList = cs at hfills
    cases hfills
    exact ⟨_, rfl⟩
  · rcases hfills.mem hc with ⟨s, hs, hcs⟩ | hcomponent
    · exact inPath_of_literal r hs hcs
    · simp [inPath, hcomponent]

end Route

end CredStore
