import CredStore.Name.ServiceInstance
import CredStore.Proofs.Json.Decode

/-!
# Names and their paths

`Spells p ss`: with at most one leading `/` removed, `p` is empty or made of the segments `ss` with
`/` between them. Reading accepts exactly the paths that spell something (`parse_eq_ok_iff`), and
what a path spells is unique, so a name and its path determine each other (`parse_path`,
`path_bijection`).
-/

namespace CredStore.Name

/-- `path` is made of the segments `ss`; its leading `/` may be missing. -/
def Spells (path : String) (ss : List String) : Prop :=
  (∀ s ∈ ss, s ≠ "" ∧ '/' ∉ s.toList) ∧
    (path = "/".intercalate ss ∨ path = "/" ++ "/".intercalate ss)

instance (path : String) (ss : List String) : Decidable (Spells path ss) :=
  inferInstanceAs (Decidable (_ ∧ _))

/-! ## Building -/

theorem ofSegments_eq_ok_iff {ss : List String} {n : Name} :
    ofSegments ss = .ok n ↔ n.segments = ss := by
  unfold ofSegments
  split
  · refine ⟨fun h => ?_, fun h => ?_⟩
    · cases h
      rfl
    · subst h
      exact congrArg _ (eq_of_segments rfl)
  · rename_i hs
    refine ⟨(fun h => nomatch h), fun h => ?_⟩
    subst h
    exact absurd n.wellFormed hs

theorem child_eq_ok_iff {n m : Name} {s : String} :
    n.child s = .ok m ↔ m.segments = n.segments ++ [s] := by
  unfold child
  split
  · refine ⟨fun h => ?_, fun h => ?_⟩
    · cases h
      rfl
    · exact congrArg _ (eq_of_segments h.symm)
  · rename_i hs
    refine ⟨(fun h => nomatch h), fun h => ?_⟩
    exact absurd (m.wellFormed s (h ▸ by simp)) hs

/-! ## Reading -/

theorem parse_eq_ok_iff_pieces {p : String} {n : Name} :
    parse p = .ok n ↔ n.segments = pieces (relative p.toList) := by
  unfold parse
  rw [mapError_eq_ok, ofSegments_eq_ok_iff]

theorem parse_eq_error {p : String} {e : Error} (h : parse p = .error e) :
    e = .invalidArgument (.malformedName p) := by
  obtain ⟨_, -, rfl⟩ := mapError_eq_error.1 h
  rfl

/-- Nothing is removed from a path that starts with a segment. -/
theorem relative_intercalate {ss : List String} (h : ∀ s ∈ ss, IsSegment s) :
    relative ("/".intercalate ss).toList = ("/".intercalate ss).toList := by
  unfold relative
  split
  · rename_i rest hcs
    -- a `/` in front would be an empty piece in front
    have hp := pieces_intercalate h
    rw [hcs, pieces, if_neg (by simp), List.splitOn_cons_eq_if_modifyHead] at hp
    have hmem : "" ∈ ss := by
      rw [← hp]
      simp
    exact absurd rfl (h "" hmem).1
  · rfl

theorem eq_relative (p : String) :
    p = String.ofList (relative p.toList) ∨ p = "/" ++ String.ofList (relative p.toList) := by
  unfold relative
  split
  · rename_i rest hcs
    refine .inr (String.toList_injective ?_)
    simp [hcs]
  · exact .inl (String.ofList_toList).symm

theorem spells_iff {p : String} {ss : List String} :
    Spells p ss ↔ (∀ s ∈ ss, IsSegment s) ∧ ss = pieces (relative p.toList) := by
  refine ⟨fun ⟨hs, hp⟩ => ⟨hs, ?_⟩, fun ⟨hs, hp⟩ => ⟨hs, ?_⟩⟩
  · rcases hp with rfl | rfl
    · rw [relative_intercalate hs, pieces_intercalate hs]
    · rw [← render_eq, pieces_render hs]
  · rw [hp, intercalate_pieces]
    exact eq_relative p

/-- **Reading accepts what spells segments**, and gives these segments. -/
theorem parse_eq_ok_iff {p : String} {n : Name} : parse p = .ok n ↔ Spells p n.segments := by
  rw [parse_eq_ok_iff_pieces, spells_iff]
  exact ⟨fun h => ⟨n.wellFormed, h⟩, fun h => h.2⟩

example : Spells "a/b" ["a", "b"] ∧ Spells "/" [] ∧ ¬ Spells "/a//b" ["a", "", "b"] := by
  decide +kernel

theorem spells_iff_parse {p : String} {ss : List String} :
    Spells p ss ↔ ∃ n, parse p = .ok n ∧ n.segments = ss := by
  refine ⟨fun h => ⟨.ofWellFormed ss h.1, parse_eq_ok_iff.2 h, rfl⟩, ?_⟩
  rintro ⟨n, hn, rfl⟩
  exact parse_eq_ok_iff.1 hn

theorem decoder_eq_ok_iff {j : Json} {n : Name} :
    decoder j = .ok n ↔ ∃ p, j = .text p ∧ parse p = .ok n := by
  unfold decoder
  rw [Decoder.ruled_eq_ok]
  simp only [Decoder.text_eq_ok]

/-! ## Paths -/

theorem path_eq (n : Name) : n.path = "/" ++ "/".intercalate n.segments :=
  n.rendered.trans (render_eq n.segments)

theorem spells_path (n : Name) : Spells n.path n.segments :=
  ⟨n.wellFormed, .inr (path_eq n)⟩

/-- **A name is read back from its path.** -/
theorem parse_path (n : Name) : parse n.path = .ok n :=
  parse_eq_ok_iff.2 (spells_path n)

/-- **A name is read back from its document.** -/
theorem decoder_toJson (n : Name) : decoder n.toJson = .ok n :=
  decoder_eq_ok_iff.2 ⟨n.path, rfl, parse_path n⟩

/-- The path of what was read is the text, with the `/` in front if it was missing. -/
theorem path_of_parse {p : String} {n : Name} (h : parse p = .ok n) :
    n.path = if p.toList.head? = some '/' then p else "/" ++ p := by
  obtain ⟨hs, rfl | rfl⟩ := parse_eq_ok_iff.1 h
  · have hne : ("/".intercalate n.segments).toList.head? ≠ some '/' := by
      intro hc
      obtain ⟨cs, hcs⟩ := List.head?_eq_some_iff.1 hc
      have hr := relative_intercalate n.wellFormed
      rw [hcs] at hr
      exact List.cons_ne_self _ _ hr.symm
    rw [if_neg hne, path_eq]
  · rw [if_pos (by simp), path_eq]

/-- **Names and paths determine each other**, whichever way a name came about: reading accepts
exactly what spells segments, a name is read back from its path and from its document, and names
that are compared by their paths are compared by their segments. -/
theorem path_bijection :
    (∀ p ss, Spells p ss ↔ ∃ n, parse p = .ok n ∧ n.segments = ss) ∧
    (∀ p n, parse p = .ok n → n.path = if p.toList.head? = some '/' then p else "/" ++ p) ∧
    (∀ p e, parse p = .error e → ∃ why, e = .invalidArgument why) ∧
    (root.segments = [] ∧
      (∀ ss n, ofSegments ss = .ok n ↔ n.segments = ss) ∧
      (∀ n s m, child n s = .ok m ↔ m.segments = n.segments ++ [s]) ∧
      (∀ j n, decoder j = .ok n ↔ ∃ p, j = .text p ∧ parse p = .ok n) ∧
      (∀ n : ServiceName,
        n.toName.segments = [n.broker, n.offering, n.binding, n.credential])) ∧
    (∀ n : Name, (∀ s ∈ n.segments, s ≠ "" ∧ '/' ∉ s.toList) ∧
      n.path = "/" ++ "/".intercalate n.segments ∧
      parse n.path = .ok n ∧ decoder n.toJson = .ok n) ∧
    (∀ n m : Name, (n == m) = (n.path == m.path) ∧
      ((n == m) = true ↔ n.segments = m.segments)) := by
  refine ⟨fun p ss => spells_iff_parse, fun p n => path_of_parse, fun p e h => ?_, ?_, ?_, ?_⟩
  · exact ⟨_, parse_eq_error h⟩
  · refine ⟨rfl, fun ss n => ofSegments_eq_ok_iff, fun n s m => child_eq_ok_iff, fun j n => ?_,
      fun n => rfl⟩
    exact decoder_eq_ok_iff
  · exact fun n => ⟨n.wellFormed, path_eq n, parse_path n, decoder_toJson n⟩
  · refine fun n m => ⟨rfl, ?_⟩
    rw [← path_inj]
    exact beq_iff_eq (a := n.path)

end CredStore.Name
