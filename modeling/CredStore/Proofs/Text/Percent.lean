import CredStore.Text.Percent

/-!
# Percent-encoding read back

The bytes that an encoded text stands for are the bytes of the text (`decodeBytes_encodeBy`), so a
component is decoded to what was encoded (`decode?_encodeComponent`), and different texts have
different components (`encodeComponent_inj`). A component is made of unreserved characters and
`%XX` triples (`encoded_encodeComponent`), so it holds unreserved characters and `%` only
(`isComponent_of_mem`).
-/

namespace CredStore.Text.Percent

/-! ## Digits -/

theorem hexValue?_upperHexDigit {n : Nat} (h : n < 16) : hexValue? (upperHexDigit n) = some n := by
  have key : ∀ n < 16, hexValue? (upperHexDigit n) = some n := by decide
  exact key n h

/-! ## Bytes -/

theorem decodeBytes_encodeByte (b : UInt8) (rest : List Char) :
    decodeBytes (encodeByte b ++ rest) = b :: decodeBytes rest := by
  have hb : b.toNat < 256 := b.toNat_lt
  have hhigh := hexValue?_upperHexDigit (n := b.toNat / 16) (by omega)
  have hlow := hexValue?_upperHexDigit (n := b.toNat % 16) (by omega)
  have hsum : 16 * (b.toNat / 16) + b.toNat % 16 = b.toNat := by omega
  show decodeBytes ('%' :: upperHexDigit (b.toNat / 16) :: upperHexDigit (b.toNat % 16) :: rest) = _
  rw [decodeBytes, hhigh, hlow]
  simp only [hsum, UInt8.ofNat_toNat]

theorem decodeBytes_encodeBytes (bs : List UInt8) (rest : List Char) :
    decodeBytes (bs.flatMap encodeByte ++ rest) = bs ++ decodeBytes rest := by
  induction bs with
  | nil => rfl
  | cons b bs ih =>
    rw [List.flatMap_cons, List.append_assoc, decodeBytes_encodeByte, ih, List.cons_append]

/-- Only a `%` is read together with what follows it. -/
theorem decodeBytes_cons_of_ne {c : Char} (h : c ≠ '%') (rest : List Char) :
    decodeBytes (c :: rest) = String.utf8EncodeChar c ++ decodeBytes rest := by
  rw [decodeBytes]
  rintro a b rest' rfl
  exact absurd rfl h

theorem encodeBy_cons (keep : Char → Bool) (c : Char) (s : List Char) :
    encodeBy keep (c :: s) = (if keep c then [c] else encodeChar c) ++ encodeBy keep s := rfl

theorem decodeBytes_encodeBy {keep : Char → Bool} (h : keep '%' = false) (s : List Char) :
    decodeBytes (encodeBy keep s) = s.flatMap String.utf8EncodeChar := by
  induction s with
  | nil => rfl
  | cons c s ih =>
    rw [encodeBy_cons, List.flatMap_cons, ← ih]
    split
    · rename_i hc
      have hne : c ≠ '%' := by
        rintro rfl
        rw [h] at hc
        cases hc
      exact decodeBytes_cons_of_ne hne _
    · exact decodeBytes_encodeBytes _ _

/-! ## What is kept -/

theorem encodeBy_append (keep : Char → Bool) (s t : List Char) :
    encodeBy keep (s ++ t) = encodeBy keep s ++ encodeBy keep t :=
  List.flatMap_append

theorem encodeBy_eq_self {keep : Char → Bool} {s : List Char} (h : ∀ c ∈ s, keep c) :
    encodeBy keep s = s := by
  induction s with
  | nil => rfl
  | cons c s ih =>
    rw [encodeBy_cons, if_pos (h c List.mem_cons_self),
      ih fun d hd => h d (List.mem_cons_of_mem _ hd)]
    rfl

/-! ## Components -/

/-- **A component is decoded to the text that was encoded.** -/
theorem decode?_encodeComponent (s : String) : decode? (encodeComponent s).toList = some s := by
  have hbytes : (⟨(decodeBytes (encodeComponent s).toList).toArray⟩ : ByteArray) =
      s.toByteArray := by
    rw [encodeComponent, String.toList_ofList, decodeBytes_encodeBy (by decide)]
    have hs : (String.ofList s.toList).toByteArray = s.toList.utf8Encode := rfl
    rw [String.ofList_toList] at hs
    rw [hs, List.utf8Encode]
    exact ByteArray.ext (List.data_toByteArray).symm
  unfold decode? String.fromUTF8?
  rw [hbytes, dif_pos s.isValidUTF8]
  rfl

theorem encodeComponent_inj {s t : String} : encodeComponent s = encodeComponent t ↔ s = t := by
  refine ⟨fun h => ?_, fun h => by rw [h]⟩
  have hs := decode?_encodeComponent s
  rw [h, decode?_encodeComponent t] at hs
  exact (Option.some.inj hs).symm

/-- What a component may hold. -/
def isComponent (c : Char) : Bool :=
  isUnreserved c || c == '%'

theorem toNat_lt_of_isAlphanum {c : Char} (h : c.isAlphanum) : c.toNat < 0x80 := by
  have hbelow {d : Char} (hd : d.toNat < 0x80) (hle : c.val ≤ d.val) : c.toNat < 0x80 :=
    Nat.lt_of_le_of_lt (UInt32.le_iff_toNat_le.1 hle) hd
  rcases Bool.or_eq_true_iff.1 h with halpha | hdigit
  · rcases Bool.or_eq_true_iff.1 halpha with hupper | hlower
    · exact hbelow (d := 'Z') (by decide) (of_decide_eq_true hupper).2
    · exact hbelow (d := 'z') (by decide) (of_decide_eq_true (Bool.and_eq_true_iff.1 hlower).2)
  · exact hbelow (d := '9') (by decide) (of_decide_eq_true (Bool.and_eq_true_iff.1 hdigit).2)

/-- A component is ASCII. -/
theorem toNat_lt_of_isComponent {c : Char} (h : isComponent c) : c.toNat < 0x80 := by
  simp only [isComponent, isUnreserved, Bool.or_eq_true, beq_iff_eq] at h
  rcases h with ((((h | rfl) | rfl) | rfl) | rfl) | rfl
  · exact toNat_lt_of_isAlphanum h
  all_goals decide

theorem isComponent_of_mem_encodeChar {c d : Char} (h : d ∈ encodeChar c) : isComponent d := by
  obtain ⟨b, -, hd⟩ := List.mem_flatMap.1 h
  have hb : b.toNat < 256 := b.toNat_lt
  have hdigit : ∀ n < 16, isComponent (upperHexDigit n) := by decide
  simp only [encodeByte, List.mem_cons, List.not_mem_nil, or_false] at hd
  rcases hd with rfl | rfl | rfl
  · rfl
  · exact hdigit _ (by omega)
  · exact hdigit _ (by omega)

theorem isComponent_of_mem {s : String} {c : Char} (h : c ∈ (encodeComponent s).toList) :
    isComponent c := by
  rw [encodeComponent, String.toList_ofList] at h
  obtain ⟨d, -, hc⟩ := List.mem_flatMap.1 h
  split at hc
  · rename_i hd
    rw [List.mem_singleton.1 hc, isComponent, hd]
    rfl
  · exact isComponent_of_mem_encodeChar hc

/-- Unreserved characters and triples of a `%` and two upper-case hexadecimal digits. -/
inductive Encoded : List Char → Prop
  | nil : Encoded []
  | kept {c s} : isUnreserved c → Encoded s → Encoded (c :: s)
  | triple {x y s} : x ∈ "0123456789ABCDEF".toList → y ∈ "0123456789ABCDEF".toList → Encoded s →
    Encoded ('%' :: x :: y :: s)

theorem Encoded.append {s t : List Char} (hs : Encoded s) (ht : Encoded t) : Encoded (s ++ t) := by
  induction hs with
  | nil => exact ht
  | kept hc _ ih => exact .kept hc ih
  | triple hx hy _ ih => exact .triple hx hy ih

theorem encoded_encodeBytes (bs : List UInt8) : Encoded (bs.flatMap encodeByte) := by
  induction bs with
  | nil => exact .nil
  | cons b bs ih =>
    have hb : b.toNat < 256 := b.toNat_lt
    have hdigit : ∀ n < 16, upperHexDigit n ∈ "0123456789ABCDEF".toList := by decide
    exact .triple (hdigit _ (by omega)) (hdigit _ (by omega)) ih

/-- **What is written in place of a text** are unreserved characters and triples. -/
theorem encoded_encodeComponent (s : String) : Encoded (encodeComponent s).toList := by
  rw [encodeComponent, String.toList_ofList]
  induction s.toList with
  | nil => exact .nil
  | cons c s ih =>
    rw [encodeBy_cons]
    split
    · rename_i hc
      exact .kept hc ih
    · exact (encoded_encodeBytes _).append ih

end CredStore.Text.Percent
