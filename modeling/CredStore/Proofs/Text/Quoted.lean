import CredStore.Text.Quoted

/-!
# Quoted text is told apart

Each character is quoted in one of three forms (`Quotation`): as itself, as a backslash and a
letter, or as its number between braces. Where one ends can be seen from where it starts
(`showChar_append_inj`), so two texts are quoted alike only if they are the same text
(`quoted_inj`).
-/

namespace CredStore.Text

/-! ## Hexadecimal digits -/

theorem digitChar_inj {a b : Nat} (ha : a < 16) (hb : b < 16)
    (h : a.digitChar = b.digitChar) : a = b := by
  have key : ∀ a b : Fin 16, Nat.digitChar a = Nat.digitChar b → a = b := by decide
  exact congrArg Fin.val (key ⟨a, ha⟩ ⟨b, hb⟩ h)

theorem hexDigits_of_lt {n : Nat} (h : n < 16) : hexDigits n = [n.digitChar] :=
  Nat.toDigits_of_lt_base h

theorem hexDigits_of_le {n : Nat} (h : 16 ≤ n) :
    hexDigits n = hexDigits (n / 16) ++ [(n % 16).digitChar] :=
  Nat.toDigits_of_base_le (by decide) h

theorem hexDigits_inj {n m : Nat} (h : hexDigits n = hexDigits m) : n = m := by
  induction n using Nat.strongRecOn generalizing m with
  | ind n ih =>
    rcases Nat.lt_or_ge n 16 with hn | hn <;> rcases Nat.lt_or_ge m 16 with hm | hm
    · rw [hexDigits_of_lt hn, hexDigits_of_lt hm] at h
      exact digitChar_inj hn hm (List.singleton_inj.1 h)
    · rw [hexDigits_of_lt hn, hexDigits_of_le hm] at h
      exact absurd (List.append_eq_singleton_iff.1 h.symm) (by simp [hexDigits])
    · rw [hexDigits_of_le hn, hexDigits_of_lt hm] at h
      exact absurd (List.append_eq_singleton_iff.1 h) (by simp [hexDigits])
    · rw [hexDigits_of_le hn, hexDigits_of_le hm] at h
      obtain ⟨hfirst, hlast⟩ := List.append_inj' h rfl
      have hdiv : n / 16 = m / 16 := ih (n / 16) (by omega) hfirst
      have hmod : n % 16 = m % 16 :=
        digitChar_inj (Nat.mod_lt n (by decide)) (Nat.mod_lt m (by decide))
          (List.singleton_inj.1 hlast)
      omega

theorem brace_notMem_hexDigits (n : Nat) : '\x7d' ∉ hexDigits n := by
  induction n using Nat.strongRecOn with
  | ind n ih =>
    have hdigit : ∀ a : Nat, '\x7d' ≠ a.digitChar := fun a => (Nat.digitChar_ne _ (by decide)).symm
    rcases Nat.lt_or_ge n 16 with hn | hn
    · rw [hexDigits_of_lt hn, List.mem_singleton]
      exact hdigit n
    · rw [hexDigits_of_le hn, List.mem_append, List.mem_singleton]
      exact not_or_intro (ih (n / 16) (by omega)) (hdigit (n % 16))

/-- Digits up to a closing brace. -/
theorem hexDigits_append_inj {n m : Nat} {r r' : List Char}
    (h : hexDigits n ++ '\x7d' :: r = hexDigits m ++ '\x7d' :: r') : n = m ∧ r = r' := by
  have hall : ∀ n, ∀ c ∈ hexDigits n, (c != '\x7d') = true := by
    intro n c hc
    exact bne_iff_ne.2 fun he => brace_notMem_hexDigits n (he ▸ hc)
  have htake := congrArg (List.takeWhile (· != '\x7d')) h
  have hdrop := congrArg (List.dropWhile (· != '\x7d')) h
  simp only [List.takeWhile_append_of_pos (hall _)] at htake
  simp only [List.dropWhile_append_of_pos (hall _)] at hdrop
  exact ⟨hexDigits_inj (by simpa using htake), by simpa using hdrop⟩

/-! ## Characters -/

/-- The letters that follow a backslash in place of a character. -/
def shortEscapes : List (Char × Char) :=
  [('"', '"'), ('\\', '\\'), ('\n', 'n'), ('\r', 'r'), ('\t', 't'), (Char.ofNat 0, '0')]

/-- What a character is quoted as. -/
inductive Quotation (c : Char) : List Char → Prop
  | plain : c ≠ '\\' → c ≠ '"' → Quotation c [c]
  | short {x : Char} : (c, x) ∈ shortEscapes → Quotation c ['\\', x]
  | number : Quotation c ('\\' :: 'u' :: '\x7b' :: (hexDigits c.toNat ++ ['\x7d']))

theorem quotation_showChar (c : Char) : Quotation c (showChar c) := by
  unfold showChar
  split
  · next h => exact .short (by rw [h]; decide)
  split
  · next h => exact .short (by rw [h]; decide)
  split
  · next h => exact .short (by rw [h]; decide)
  split
  · next h => exact .short (by rw [h]; decide)
  split
  · next h => exact .short (by rw [h]; decide)
  split
  · next h =>
    obtain rfl : c = Char.ofNat 0 := Char.toNat_inj.1 h
    exact .short (by decide)
  split
  · exact .number
  · next hquote hback _ _ _ _ _ => exact .plain hback hquote

theorem Quotation.ne_nil {c : Char} {s : List Char} (h : Quotation c s) : s ≠ [] := by
  cases h <;> exact List.cons_ne_nil _ _

/-- What follows a quoted character is what follows it however it is quoted. -/
theorem Quotation.append_inj {c d : Char} {s t r r' : List Char} (hs : Quotation c s)
    (ht : Quotation d t) (h : s ++ r = t ++ r') : c = d ∧ r = r' := by
  have hshort : ∀ p ∈ shortEscapes, ∀ q ∈ shortEscapes, p.2 = q.2 → p.1 = q.1 := by decide
  have hletter : ∀ p ∈ shortEscapes, p.2 ≠ 'u' := by decide
  cases hs with
  | plain hc _ =>
    cases ht with
    | plain => simpa using h
    | short => exact absurd (List.cons_eq_cons.1 h).1 hc
    | number => exact absurd (List.cons_eq_cons.1 h).1 hc
  | short hx =>
    cases ht with
    | plain hd _ => exact absurd (List.cons_eq_cons.1 h).1.symm hd
    | short hy =>
      -- the letter after the backslash tells the character
      obtain ⟨hxy, hr⟩ := List.cons_eq_cons.1 (List.cons_eq_cons.1 h).2
      exact ⟨hshort _ hx _ hy hxy, hr⟩
    | number => exact absurd (List.cons_eq_cons.1 (List.cons_eq_cons.1 h).2).1 (hletter _ hx)
  | number =>
    cases ht with
    | plain hd _ => exact absurd (List.cons_eq_cons.1 h).1.symm hd
    | short hy =>
      exact absurd (List.cons_eq_cons.1 (List.cons_eq_cons.1 h).2).1.symm (hletter _ hy)
    | number =>
      have hdigits : hexDigits c.toNat ++ '\x7d' :: r = hexDigits d.toNat ++ '\x7d' :: r' := by
        simpa using h
      obtain ⟨hcd, hr⟩ := hexDigits_append_inj hdigits
      exact ⟨Char.toNat_inj.1 hcd, hr⟩

/-! ## Texts -/

theorem flatMap_showChar_inj {s t : List Char} (h : s.flatMap showChar = t.flatMap showChar) :
    s = t := by
  induction s generalizing t with
  | nil =>
    cases t with
    | nil => rfl
    | cons d t => exact absurd (List.append_eq_nil_iff.1 h.symm).1 (quotation_showChar d).ne_nil
  | cons c s ih =>
    cases t with
    | nil => exact absurd (List.append_eq_nil_iff.1 h).1 (quotation_showChar c).ne_nil
    | cons d t =>
      obtain ⟨rfl, hst⟩ := (quotation_showChar c).append_inj (quotation_showChar d) h
      rw [ih hst]

/-- Different texts are quoted differently. -/
theorem quoted_inj {s t : String} : quoted s = quoted t ↔ s = t := by
  refine ⟨fun h => ?_, fun h => h ▸ rfl⟩
  have hchars := (List.cons_eq_cons.1 (String.ofList_injective h)).2
  exact String.toList_inj.1 (flatMap_showChar_inj (List.append_cancel_right hchars))

end CredStore.Text
