/-!
# Segments and paths

The path of a list of segments is `/` before each of them, and `/` alone for none. Cutting a path
at each `/` gives the segments back (`pieces_intercalate`), so different lists of segments have
different paths (`render_inj`).
-/

namespace CredStore

/-- What a segment of a name must be. -/
def IsSegment (s : String) : Prop :=
  s ≠ "" ∧ '/' ∉ s.toList

instance (s : String) : Decidable (IsSegment s) :=
  inferInstanceAs (Decidable (_ ∧ _))

namespace Name

/-- `/` before each segment. -/
def pathOf : List String → List Char
  | [] => []
  | s :: rest => '/' :: s.toList ++ pathOf rest

/-- The path of the name with these segments. -/
def render (segments : List String) : String :=
  String.ofList (if segments.isEmpty then ['/'] else pathOf segments)

/-- The path without its leading `/`, if it has one. -/
def relative (path : List Char) : List Char :=
  match path with
  | '/' :: rest => rest
  | cs => cs

/-- The pieces of a relative path; none for the empty one. -/
def pieces (cs : List Char) : List String :=
  if cs.isEmpty then [] else (cs.splitOn '/').map String.ofList

/-! ## Pieces -/

theorem toList_intercalate (ss : List String) :
    ("/".intercalate ss).toList = ['/'].intercalate (ss.map String.toList) :=
  String.toList_intercalate

/-- Segments are the pieces of what they make up. -/
theorem pieces_intercalate {ss : List String} (h : ∀ s ∈ ss, IsSegment s) :
    pieces ("/".intercalate ss).toList = ss := by
  cases ss with
  | nil => rfl
  | cons s rest =>
    have hmem : ∀ l ∈ (s :: rest).map String.toList, '/' ∉ l := by
      intro l hl
      obtain ⟨t, ht, rfl⟩ := List.mem_map.1 hl
      exact (h t ht).2
    have hsplit : ("/".intercalate (s :: rest)).toList.splitOn '/' =
        (s :: rest).map String.toList := by
      rw [toList_intercalate]
      exact List.splitOn_intercalate '/' hmem (by simp)
    have hne : ("/".intercalate (s :: rest)).toList.isEmpty = false := by
      cases hc : ("/".intercalate (s :: rest)).toList with
      | cons c cs => rfl
      | nil =>
        -- the only piece of nothing is empty, and `s` is not
        rw [hc, List.splitOn_nil, List.map_cons] at hsplit
        have hs : s.toList = [] := (List.cons.inj hsplit).1.symm
        exact absurd (String.toList_eq_nil_iff.1 hs) (h s List.mem_cons_self).1
    unfold pieces
    rw [hne, hsplit]
    simp [Function.comp_def]

theorem intercalate_pieces (cs : List Char) : "/".intercalate (pieces cs) = String.ofList cs := by
  apply String.toList_injective
  rw [toList_intercalate, String.toList_ofList]
  unfold pieces
  split
  · rename_i he
    rw [List.isEmpty_iff.1 he]
    rfl
  · simp [Function.comp_def]

/-! ## Paths -/

theorem pathOf_cons (s : String) (rest : List String) :
    pathOf (s :: rest) = '/' :: ("/".intercalate (s :: rest)).toList := by
  induction rest generalizing s with
  | nil => simp [pathOf]
  | cons t rest ih =>
    rw [pathOf, ih, toList_intercalate, toList_intercalate]
    simp

theorem render_eq (ss : List String) : render ss = "/" ++ "/".intercalate ss := by
  apply String.toList_injective
  rw [String.toList_append, render, String.toList_ofList]
  cases ss with
  | nil => rfl
  | cons s rest => exact pathOf_cons s rest

/-- Segments are the pieces of their path. -/
theorem pieces_render {ss : List String} (h : ∀ s ∈ ss, IsSegment s) :
    pieces (relative (render ss).toList) = ss := by
  rw [render_eq, String.toList_append]
  exact pieces_intercalate h

theorem render_inj {ss ts : List String} (hs : ∀ s ∈ ss, IsSegment s)
    (ht : ∀ s ∈ ts, IsSegment s) : render ss = render ts ↔ ss = ts := by
  refine ⟨fun h => ?_, fun h => by rw [h]⟩
  rw [← pieces_render hs, h, pieces_render ht]

end Name

end CredStore
