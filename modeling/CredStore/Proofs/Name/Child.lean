import CredStore.Proofs.Name.Path

/-!
# Names built segment by segment

A name can be given whole, as a list of segments, or grow from the root by one child at a time. Both
ways come to the same (`foldlM_child_root_eq`): they give the same name, or they are refused because
of the same segment, the first that is none (`FirstUnfit`). A child consists of its parent and its
last segment, and of nothing else (`child_inj`, `path_of_child`).
-/

namespace CredStore.Name

/-! ## Refused segments -/

/-- Why a text is no segment. -/
inductive Unfit : String → Refusal → Prop
  | empty : Unfit "" .emptySegment
  | slash {s : String} : '/' ∈ s.toList → Unfit s (.slashInSegment s)

/-- The first text of the list that is no segment, and why it is none. -/
def FirstUnfit (ss : List String) (why : Refusal) : Prop :=
  ∃ before s after, ss = before ++ s :: after ∧ (∀ t ∈ before, IsSegment t) ∧ Unfit s why

theorem unfit_iff {s : String} {why : Refusal} :
    Unfit s why ↔ ¬ IsSegment s ∧ why = segmentFault s := by
  unfold segmentFault
  constructor
  · rintro (_ | hslash)
    · exact ⟨fun h => h.1 rfl, rfl⟩
    · have hne : s ≠ "" := by
        rintro rfl
        simp at hslash
      exact ⟨fun h => h.2 hslash, (if_neg hne).symm⟩
  · rintro ⟨hs, rfl⟩
    split
    · subst s
      exact .empty
    · rename_i hne
      exact .slash (Decidable.not_not.1 fun hslash => hs ⟨hne, hslash⟩)

theorem not_firstUnfit_nil {why : Refusal} : ¬ FirstUnfit [] why := by
  rintro ⟨before, s, after, h, -⟩
  simp at h

theorem firstUnfit_cons {s : String} {ss : List String} {why : Refusal} :
    FirstUnfit (s :: ss) why ↔ Unfit s why ∨ IsSegment s ∧ FirstUnfit ss why :=
  exists_first_cons

theorem child_eq_error_iff {n : Name} {s : String} {e : Error} :
    n.child s = .error e ↔ ∃ why, Unfit s why ∧ e = .invalidArgument why := by
  simp only [unfit_iff, and_assoc, exists_and_left, exists_eq_left]
  unfold child
  split
  · rename_i hs
    refine ⟨fun h => ?_, fun h => absurd hs h.1⟩
    cases h
  · rename_i hs
    simp [hs, refuse, eq_comm]

theorem exists_child_iff {n : Name} {s : String} :
    (∃ m, n.child s = .ok m) ↔ IsSegment s := by
  unfold child
  split
  · rename_i hs
    exact ⟨fun _ => hs, fun _ => ⟨_, rfl⟩⟩
  · rename_i hs
    refine ⟨fun h => ?_, fun h => absurd h hs⟩
    obtain ⟨m, hm⟩ := h
    cases hm

/-! ## Whole lists -/

/-- Children of children: the segments are put behind those of the first name. -/
theorem foldlM_child_eq_ok_iff {ss : List String} {n m : Name} :
    ss.foldlM child n = .ok m ↔ m.segments = n.segments ++ ss := by
  induction ss generalizing n with
  | nil =>
    rw [List.append_nil]
    refine ⟨fun h => ?_, fun h => ?_⟩
    · cases h
      rfl
    · exact congrArg Except.ok (eq_of_segments h.symm)
  | cons s ss ih =>
    rw [List.foldlM_cons]
    refine bind_eq_ok.trans ?_
    simp only [child_eq_ok_iff, ih]
    constructor
    · rintro ⟨k, hk, hm⟩
      rw [hm, hk, List.append_assoc, List.singleton_append]
    · intro hm
      have hsegment : ∀ t ∈ n.segments ++ [s], IsSegment t := by
        intro t ht
        refine m.wellFormed t ?_
        rw [hm, List.append_cons]
        exact List.mem_append_left _ ht
      refine ⟨ofWellFormed _ hsegment, rfl, ?_⟩
      rw [hm, List.append_cons]
      rfl

theorem foldlM_child_eq_error_iff {ss : List String} {n : Name} {e : Error} :
    ss.foldlM child n = .error e ↔ ∃ why, FirstUnfit ss why ∧ e = .invalidArgument why := by
  induction ss generalizing n with
  | nil => exact ⟨nofun, fun ⟨_, h, _⟩ => absurd h not_firstUnfit_nil⟩
  | cons s ss ih =>
    rw [List.foldlM_cons]
    refine bind_eq_error.trans ?_
    simp only [ih, child_eq_error_iff, firstUnfit_cons, exists_and_right, exists_child_iff]
    constructor
    · rintro (⟨why, hs, rfl⟩ | ⟨hs, why, hss, rfl⟩)
      · exact ⟨why, .inl hs, rfl⟩
      · exact ⟨why, .inr ⟨hs, hss⟩, rfl⟩
    · rintro ⟨why, hs | ⟨hs, hss⟩, rfl⟩
      · exact .inl ⟨why, hs, rfl⟩
      · exact .inr ⟨hs, why, hss, rfl⟩

theorem firstFault_cons_of_segment {s : String} {ss : List String} (h : IsSegment s) :
    firstFault (s :: ss) = firstFault ss := by
  unfold firstFault
  rw [List.find?_cons_of_neg (by simp [h])]

theorem firstFault_cons_of_not {s : String} {ss : List String} (h : ¬ IsSegment s) :
    firstFault (s :: ss) = segmentFault s := by
  unfold firstFault
  rw [List.find?_cons_of_pos (by simp [h])]
  rfl

/-- The fault of a list that does not consist of segments is that of the first that is none. -/
theorem firstUnfit_iff {ss : List String} {why : Refusal} :
    FirstUnfit ss why ↔ (¬ ∀ s ∈ ss, IsSegment s) ∧ why = firstFault ss := by
  induction ss with
  | nil => simp [not_firstUnfit_nil]
  | cons s ss ih =>
    rw [firstUnfit_cons, ih, unfit_iff, List.forall_mem_cons]
    by_cases hs : IsSegment s
    · simp [hs, firstFault_cons_of_segment hs]
    · simp [hs, firstFault_cons_of_not hs]

theorem ofSegments_eq_error_iff {ss : List String} {e : Error} :
    ofSegments ss = .error e ↔ ∃ why, FirstUnfit ss why ∧ e = .invalidArgument why := by
  simp only [firstUnfit_iff, and_assoc, exists_and_left, exists_eq_left]
  unfold ofSegments
  split
  · rename_i hss
    refine ⟨fun h => ?_, fun h => absurd hss h.1⟩
    cases h
  · rename_i hss
    simp [hss, refuse, eq_comm]

/-- **A name can be built segment by segment**, and it makes no difference, for failures either. -/
theorem foldlM_child_root_eq (ss : List String) : ss.foldlM child root = ofSegments ss := by
  cases h : ofSegments ss with
  | ok n => exact foldlM_child_eq_ok_iff.2 (ofSegments_eq_ok_iff.1 h)
  | error e => exact foldlM_child_eq_error_iff.2 (ofSegments_eq_error_iff.1 h)

/-! ## Children -/

theorem pathOf_concat (ss : List String) (s : String) :
    pathOf (ss ++ [s]) = pathOf ss ++ '/' :: s.toList := by
  induction ss with
  | nil => simp [pathOf]
  | cons t ss ih => simp [pathOf, ih]

/-- The path of the root ends in the separator, that of any other name does not. -/
theorem path_of_child {n m : Name} {s : String} (h : n.child s = .ok m) :
    m.path = if n.isRoot then "/" ++ s else n.path ++ "/" ++ s := by
  apply String.toList_injective
  rw [m.rendered, child_eq_ok_iff.1 h, render, String.toList_ofList, pathOf_concat]
  unfold isRoot
  cases hn : n.segments with
  | nil => simp [pathOf]
  | cons t ss => simp [n.rendered, hn, render]

/-- A child is its parent and its last segment. -/
theorem child_inj {n n' m m' : Name} {s s' : String} (h : n.child s = .ok m)
    (h' : n'.child s' = .ok m') : m = m' ↔ n = n' ∧ s = s' := by
  constructor
  · rintro rfl
    have hsegments := (child_eq_ok_iff.1 h).symm.trans (child_eq_ok_iff.1 h')
    obtain ⟨hn, hs⟩ := List.append_inj' hsegments rfl
    exact ⟨eq_of_segments hn, List.singleton_inj.1 hs⟩
  · rintro ⟨rfl, rfl⟩
    exact Except.ok.inj (h.symm.trans h')

/-- **The ways of building a name agree.** Adding segments to the root one by one gives what the
whole list gives: the name with these segments if all of them are segments, and else the refusal of
the first that is none. One more segment is refused for itself alone; else it is the last of the
child, whose path is read back as the child, and which no other parent has. -/
theorem built_stepwise :
    (∀ ss : List String, ss.foldlM child root = ofSegments ss) ∧
    (∀ ss : List String, (∃ n, ofSegments ss = .ok n ∧ n.segments = ss) ↔
      ∀ s ∈ ss, s ≠ "" ∧ '/' ∉ s.toList) ∧
    (∀ (ss : List String) (e : Error),
      ofSegments ss = .error e ↔ ∃ why, FirstUnfit ss why ∧ e = .invalidArgument why) ∧
    (∀ (n : Name) (s : String), (∃ m, n.child s = .ok m) ↔ s ≠ "" ∧ '/' ∉ s.toList) ∧
    (∀ (n : Name) (s : String) (e : Error),
      n.child s = .error e ↔ ∃ why, Unfit s why ∧ e = .invalidArgument why) ∧
    (∀ (n m : Name) (s : String), n.child s = .ok m →
      m.segments = n.segments ++ [s] ∧ m.last? = some s ∧
      m.path = (if n.isRoot then "/" ++ s else n.path ++ "/" ++ s) ∧ parse m.path = .ok m) ∧
    (∀ (n n' m m' : Name) (s s' : String), n.child s = .ok m → n'.child s' = .ok m' →
      ((m == m') = true ↔ (n == n') = true ∧ s = s')) := by
  refine ⟨foldlM_child_root_eq, fun ss => ⟨?_, fun h => ?_⟩, fun ss e => ofSegments_eq_error_iff,
    fun n s => exists_child_iff, fun n s e => child_eq_error_iff, fun n m s h => ?_,
    fun n n' m m' s s' h h' => ?_⟩
  · rintro ⟨n, -, rfl⟩
    exact n.wellFormed
  · exact ⟨ofWellFormed ss h, ofSegments_eq_ok_iff.2 rfl, rfl⟩
  · have hsegments := child_eq_ok_iff.1 h
    refine ⟨hsegments, ?_, path_of_child h, m.parse_path⟩
    rw [last?, hsegments, List.getLast?_concat]
  · rw [beq_iff_eq, beq_iff_eq]
    exact child_inj h h'

example : ["a", "", "b/c"].foldlM child root = refuse .emptySegment := by rfl

end CredStore.Name
