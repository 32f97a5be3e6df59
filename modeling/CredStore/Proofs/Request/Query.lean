import CredStore.Proofs.Text.Percent
import CredStore.Text.Percent
import Mathlib.Data.List.TakeWhile

/-!
# Queries of request paths

What follows the first `?` of a path are its parameters with `&` between them, each a name, a `=`
and a percent-encoded text. `parameters` reads them, `write` writes them. No delimiter of a query
stands in an encoded text, so a query that was written is read back with the same parameters in the
same order (`parameters_write`).
-/

namespace CredStore.Query

open Text.Percent

/-- The text after the first `?` of a path, if there is one. -/
def ofPath? (path : List Char) : Option (List Char) :=
  match path.dropWhile (· ≠ '?') with
  | _ :: query => some query
  | [] => none

/-- The name before the first `=` of a piece, and the text that is encoded after it. -/
def parameter (piece : List Char) : String × Option String :=
  (String.ofList (piece.takeWhile (· ≠ '=')), decode? ((piece.dropWhile (· ≠ '=')).drop 1))

/-- The parameters of a path, in order. -/
def parameters (path : String) : List (String × Option String) :=
  match ofPath? path.toList with
  | some query => (query.splitOn '&').map parameter
  | none => []

/-- A name and a text as one piece of a query. -/
def piece (p : String × String) : List Char :=
  p.1.toList ++ '=' :: (encodeComponent p.2).toList

/-- A query with these parameters. -/
def write (ps : List (String × String)) : List Char :=
  ['&'].intercalate (ps.map piece)

/-! ## Reading back -/

/-- A character that does not stand in a text does not end a run of it. -/
theorem decide_ne_of_not_mem {c : Char} {s : List Char} (h : c ∉ s) :
    ∀ d ∈ s, decide (d ≠ c) = true :=
  fun _ hd => decide_eq_true fun e => h (e ▸ hd)

theorem ofPath?_append {base : List Char} (h : '?' ∉ base) (query : List Char) :
    ofPath? (base ++ '?' :: query) = some query := by
  unfold ofPath?
  rw [List.dropWhile_append_of_pos (decide_ne_of_not_mem h)]
  simp

theorem ofPath?_eq_none {path : List Char} (h : '?' ∉ path) : ofPath? path = none := by
  unfold ofPath?
  rw [List.dropWhile_eq_nil_iff.2 (decide_ne_of_not_mem h)]

theorem not_mem_encodeComponent {c : Char} (hc : isComponent c = false) (s : String) :
    c ∉ (encodeComponent s).toList := by
  intro h
  rw [isComponent_of_mem h] at hc
  cases hc

/-- A name has no delimiter of a query. -/
def IsName (s : String) : Prop :=
  '&' ∉ s.toList ∧ '=' ∉ s.toList

instance (s : String) : Decidable (IsName s) :=
  inferInstanceAs (Decidable (_ ∧ _))

theorem parameter_piece {p : String × String} (h : IsName p.1) :
    parameter (piece p) = (p.1, some p.2) := by
  have hname := decide_ne_of_not_mem h.2
  unfold parameter piece
  rw [List.takeWhile_append_of_pos hname, List.dropWhile_append_of_pos hname]
  simp [decode?_encodeComponent]

theorem and_not_mem_piece {p : String × String} (h : IsName p.1) : '&' ∉ piece p := by
  have hvalue : '&' ∉ (encodeComponent p.2).toList := not_mem_encodeComponent (by decide) p.2
  unfold piece
  simp [h.1, hvalue]

/-- **A query is read back**: the names and texts that were written, in the same order. -/
theorem parameters_write {base : List Char} {ps : List (String × String)} (hbase : '?' ∉ base)
    (hne : ps ≠ []) (hps : ∀ p ∈ ps, IsName p.1) :
    parameters (String.ofList (base ++ '?' :: write ps)) = ps.map fun p => (p.1, some p.2) := by
  have hsplit : (write ps).splitOn '&' = ps.map piece := by
    refine List.splitOn_intercalate '&' (fun l hl => ?_) (by simpa using hne)
    obtain ⟨p, hp, rfl⟩ := List.mem_map.1 hl
    exact and_not_mem_piece (hps p hp)
  unfold parameters
  rw [String.toList_ofList, ofPath?_append hbase]
  show ((write ps).splitOn '&').map parameter = _
  rw [hsplit, List.map_map]
  exact List.map_congr_left fun p hp => parameter_piece (hps p hp)

end CredStore.Query
