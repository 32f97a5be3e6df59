import CredStore.Proofs.Text.Percent
import CredStore.Url.Reader

/-!
# Paths and dotted segments

A path of a URL of the web keeps its text exactly if none of its segments says where it is, by one
point or by two (`text_pathAfterAuthority_iff`): any such segment makes the path shorter.
Percent-encoding leaves points as they are, so an encoded text is such a segment only if it is `.`
or `..` (`isDotted_encodeComponent`).
-/

namespace CredStore.Url.Path

open Text.Percent

/-- The segment stands for a level instead of a name. -/
def isDotted (s : List Char) : Bool :=
  isSingleDot s || isDoubleDot s

/-- The segment is written as it is. -/
def IsPlain (s : List Char) : Prop :=
  ∀ c ∈ s, inSegment c ∧ isSeparator true c = false

instance (s : List Char) : Decidable (IsPlain s) :=
  List.decidableBAll _ s

variable {s : List Char} {ss done : List (List Char)}

/-! ## Lengths -/

theorem text_cons (s : List Char) (ss : List (List Char)) :
    text (.segments (s :: ss)) = '/' :: (s ++ text (.segments ss)) := rfl

theorem text_append (a b : List (List Char)) :
    text (.segments (a ++ b)) = text (.segments a) ++ text (.segments b) :=
  List.flatMap_append

/-- The length of the text of segments. -/
def width (ss : List (List Char)) : Nat :=
  (text (.segments ss)).length

@[simp] theorem width_nil : width [] = 0 := rfl

@[simp] theorem width_cons (s : List Char) (ss : List (List Char)) :
    width (s :: ss) = s.length + 1 + width ss := by
  rw [width, text_cons, List.length_cons, List.length_append, width]
  omega

@[simp] theorem width_append (a b : List (List Char)) : width (a ++ b) = width a + width b := by
  rw [width, text_append, List.length_append, width, width]

theorem width_up_le (done : List (List Char)) : width (up done) ≤ width done := by
  unfold up
  split
  · exact Nat.le_refl _
  · rcases List.eq_nil_or_concat done with rfl | ⟨front, s, rfl⟩
    · exact Nat.le_refl _
    · simp

theorem length_pos_of_isDotted (h : isDotted s) : 0 < s.length := by
  cases s with
  | nil => cases h
  | cons c s => simp

theorem kept_of_isPlain (h : IsPlain s) (done : List (List Char)) : kept false done s = [s] := by
  have hkept : kept false done s = [encodeBy inSegment s] := by
    unfold kept
    split <;> simp_all
  rw [hkept, encodeBy_eq_self fun c hc => (h c hc).1]

/-! ## Pieces -/

/-- Pieces without dotted ones are added as they are. -/
theorem addPieces_of_undotted (hplain : ∀ s ∈ ss, IsPlain s)
    (hdots : ∀ s ∈ ss, isDotted s = false) : addPieces false done ss = done ++ ss := by
  fun_induction addPieces false done ss with
  | case1 done => exact (List.append_nil done).symm
  | case2 done s hdouble => simp [isDotted, hdouble] at hdots
  | case3 done s _ hsingle => simp [isDotted, hsingle] at hdots
  | case4 done s => rw [kept_of_isPlain (hplain s List.mem_cons_self)]
  | case5 done s rest _ hdouble => simp [isDotted, hdouble] at hdots
  | case6 done s rest _ _ hsingle => simp [isDotted, hsingle] at hdots
  | case7 done s rest _ _ _ ih =>
    rw [ih (fun t ht => hplain t (List.mem_cons_of_mem _ ht))
      (fun t ht => hdots t (List.mem_cons_of_mem _ ht)),
      kept_of_isPlain (hplain s List.mem_cons_self), List.append_assoc, List.singleton_append]

/-- No piece makes a path longer than its text, and a dotted one makes it shorter. -/
theorem width_addPieces (hplain : ∀ s ∈ ss, IsPlain s) (done : List (List Char)) :
    width (addPieces false done ss) + (if ss.any isDotted then 1 else 0) ≤
      width done + width ss := by
  fun_induction addPieces false done ss with
  | case1 done => simp
  | case2 done s hdouble =>
    have hdotted : isDotted s := by simp [isDotted, hdouble]
    have hlength := length_pos_of_isDotted hdotted
    have hup := width_up_le done
    simp [hdotted]
    omega
  | case3 done s _ hsingle =>
    have hdotted : isDotted s := by simp [isDotted, hsingle]
    have hlength := length_pos_of_isDotted hdotted
    simp [hdotted]
    omega
  | case4 done s hdouble hsingle =>
    have hdotted : isDotted s = false := by simp [isDotted, hdouble, hsingle]
    rw [kept_of_isPlain (hplain s List.mem_cons_self)]
    simp [hdotted]
  | case5 done s rest _ hdouble ih =>
    have hdotted : isDotted s := by simp [isDotted, hdouble]
    have hup := width_up_le done
    have hrest := ih fun t ht => hplain t (List.mem_cons_of_mem _ ht)
    simp only [List.any_cons, hdotted, Bool.true_or, if_true, width_cons]
    omega
  | case6 done s rest _ _ hsingle ih =>
    have hdotted : isDotted s := by simp [isDotted, hsingle]
    have hrest := ih fun t ht => hplain t (List.mem_cons_of_mem _ ht)
    simp only [List.any_cons, hdotted, Bool.true_or, if_true, width_cons]
    omega
  | case7 done s rest _ hdouble hsingle ih =>
    have hdotted : isDotted s = false := by simp [isDotted, hdouble, hsingle]
    have hrest := ih fun t ht => hplain t (List.mem_cons_of_mem _ ht)
    rw [kept_of_isPlain (hplain s List.mem_cons_self)] at hrest ⊢
    simp only [List.any_cons, hdotted, Bool.false_or, width_cons, width_append,
      width_nil] at hrest ⊢
    omega

/-! ## Texts -/

/-- The text of plain segments is cut into them again. -/
theorem splitOnP_text (hs : IsPlain s) (hss : ∀ t ∈ ss, IsPlain t) :
    (s ++ text (.segments ss)).splitOnP (isSeparator true) = s :: ss := by
  have hcut {t : List Char} (ht : IsPlain t) : t.splitOnP (isSeparator true) = [t] :=
    List.splitOnP_eq_singleton fun c hc => (ht c hc).2
  induction ss generalizing s with
  | nil =>
    have hnil : text (.segments []) = [] := rfl
    rw [hnil, List.append_nil, hcut hs]
  | cons t ss ih =>
    rw [text_cons, List.splitOnP_append_cons _ _ rfl, hcut hs,
      ih (hss t List.mem_cons_self) fun u hu => hss u (List.mem_cons_of_mem _ hu)]
    rfl

theorem pathAfterAuthority_text (hs : IsPlain s) (hss : ∀ t ∈ ss, IsPlain t) :
    pathAfterAuthority true (text (.segments (s :: ss))) =
      .segments (addPieces false [] (s :: ss)) :=
  congrArg (fun pieces => Path.segments (addPieces false [] pieces)) (splitOnP_text hs hss)

/-- **A path of plain segments keeps its text exactly if none of them is dotted.** -/
theorem text_pathAfterAuthority_iff (hne : ss ≠ []) (hss : ∀ t ∈ ss, IsPlain t) :
    (pathAfterAuthority true (text (.segments ss))).text = text (.segments ss) ↔
      ∀ t ∈ ss, isDotted t = false := by
  have hread : pathAfterAuthority true (text (.segments ss)) =
      .segments (addPieces false [] ss) := by
    obtain ⟨s, ss, rfl⟩ := List.exists_cons_of_ne_nil hne
    exact pathAfterAuthority_text (hss s List.mem_cons_self) fun t ht =>
      hss t (List.mem_cons_of_mem _ ht)
  rw [hread]
  refine ⟨fun h => ?_, fun h => by rw [addPieces_of_undotted hss h, List.nil_append]⟩
  have hwidth := width_addPieces hss []
  have hsame : width (addPieces false [] ss) = width ss := congrArg List.length h
  cases hany : ss.any isDotted with
  | false => exact fun t ht => Bool.eq_false_iff.2 (List.any_eq_false.1 hany t ht)
  | true =>
    rw [hany, hsame, width_nil, if_pos rfl] at hwidth
    omega

/-! ## Encoded texts -/

theorem isPlain_encodeComponent (s : String) : IsPlain (encodeComponent s).toList := by
  intro c hc
  have key : ∀ n < 0x80, isComponent (Char.ofNat n) →
      inSegment (Char.ofNat n) ∧ isSeparator true (Char.ofNat n) = false := by decide
  have hcomponent := isComponent_of_mem hc
  have hkey := key c.toNat (toNat_lt_of_isComponent hcomponent)
  rw [Char.ofNat_toNat] at hkey
  exact hkey hcomponent

theorem dots_cons_of_ne {c : Char} (h : c ≠ '%') (rest : List Char) :
    dots (c :: rest) = c :: dots rest := by
  rw [dots]
  rintro c' rest' rfl
  exact absurd rfl h

/-- An encoded byte is a point only if the byte is one. -/
theorem dots_encodeByte {b : UInt8} (hb : b ≠ 0x2E) (rest : List Char) :
    dots (encodeByte b ++ rest) = encodeByte b ++ dots rest := by
  have hlt : b.toNat < 256 := b.toNat_lt
  have hdigit : ∀ n < 16, Text.upperHexDigit n ≠ '%' ∧ Text.upperHexDigit n ≠ 'e' ∧
      (Text.upperHexDigit n = '2' → n = 2) ∧ (Text.upperHexDigit n = 'E' → n = 14) := by decide
  obtain ⟨hx, -, htwo, -⟩ := hdigit (b.toNat / 16) (by omega)
  obtain ⟨hy, he, -, hfourteen⟩ := hdigit (b.toNat % 16) (by omega)
  have hvalue : b.toNat ≠ 0x2E := fun h => hb (UInt8.toNat_inj.1 h)
  show dots ('%' :: Text.upperHexDigit (b.toNat / 16) ::
      Text.upperHexDigit (b.toNat % 16) :: rest) =
    '%' :: Text.upperHexDigit (b.toNat / 16) :: Text.upperHexDigit (b.toNat % 16) :: dots rest
  generalize Text.upperHexDigit (b.toNat / 16) = x at *
  generalize Text.upperHexDigit (b.toNat % 16) = y at *
  by_cases hx2 : x = '2'
  · have hy' : ¬ (y = 'e' ∨ y = 'E') := by
      rintro (rfl | rfl)
      · exact he rfl
      · have hhigh := htwo hx2
        have hlow := hfourteen rfl
        omega
    rw [hx2, dots, if_neg hy', dots_cons_of_ne hy]
  · rw [dots, dots_cons_of_ne hx, dots_cons_of_ne hy]
    intro c rest' _ h
    exact absurd (List.cons.inj h).1 hx2

/-- Only a point has the byte of a point. -/
theorem eq_point_of_mem {c : Char} (h : 0x2E ∈ String.utf8EncodeChar c) : c = '.' := by
  have hbyte {n : Nat} (h : 0x2E = UInt8.ofNat n) : n % 2 ^ 8 = 0x2E := by
    rw [← UInt8.toNat_ofNat', ← h]
    rfl
  unfold String.utf8EncodeChar at h
  dsimp only at h
  split at h
  · rename_i hascii
    have hvalue := hbyte (List.mem_singleton.1 h)
    have htoNat : c.toNat = '.'.toNat := by
      show c.val.toNat = 0x2E
      omega
    exact Char.toNat_inj.1 htoNat
  · -- every byte of a longer sequence has its highest bit set
    exfalso
    repeat' split at h
    all_goals simp only [List.mem_cons, List.not_mem_nil, or_false] at h
    · rcases h with h | h <;> have := hbyte h <;> omega
    · rcases h with h | h | h <;> have := hbyte h <;> omega
    · rcases h with h | h | h | h <;> have := hbyte h <;> omega

theorem dots_encodeBytes {bs : List UInt8} (hbs : 0x2E ∉ bs) (rest : List Char) :
    dots (bs.flatMap encodeByte ++ rest) = bs.flatMap encodeByte ++ dots rest := by
  induction bs with
  | nil => rfl
  | cons b bs ih =>
    have hb : b ≠ 0x2E := fun e => hbs (e ▸ List.mem_cons_self)
    rw [List.flatMap_cons, List.append_assoc, dots_encodeByte hb,
      ih fun h => hbs (List.mem_cons_of_mem _ h), List.append_assoc]

theorem dots_encodeBy (s : List Char) :
    dots (encodeBy isUnreserved s) = encodeBy isUnreserved s := by
  induction s with
  | nil => rfl
  | cons c s ih =>
    rw [encodeBy_cons]
    split
    · rename_i hc
      have hne : c ≠ '%' := by
        rintro rfl
        cases hc
      rw [List.singleton_append, dots_cons_of_ne hne, ih]
    · rename_i hc
      have hpoint : 0x2E ∉ String.utf8EncodeChar c := by
        intro hmem
        rw [eq_point_of_mem hmem] at hc
        exact hc rfl
      rw [encodeChar, dots_encodeBytes hpoint, ih]

/-- **Only `.` and `..` are dotted when they are encoded.** -/
theorem isDotted_encodeComponent (s : String) :
    isDotted (encodeComponent s).toList ↔ s = "." ∨ s = ".." := by
  have hdots : dots (encodeComponent s).toList = (encodeComponent s).toList := by
    rw [encodeComponent, String.toList_ofList, dots_encodeBy]
  have hinj {t : String} : (encodeComponent s).toList = (encodeComponent t).toList ↔ s = t :=
    String.toList_inj.trans encodeComponent_inj
  have hone : ['.'] = (encodeComponent ".").toList := rfl
  have htwo : ['.', '.'] = (encodeComponent "..").toList := rfl
  rw [isDotted, isSingleDot, isDoubleDot, hdots, htwo, hone, Bool.or_eq_true, beq_iff_eq,
    beq_iff_eq, hinj, hinj]

end CredStore.Url.Path
