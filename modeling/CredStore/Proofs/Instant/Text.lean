import CredStore.Instant.Basic
import CredStore.Proofs.Instant.Calendar
import CredStore.Proofs.Json.Rewrite
import Mathlib.Algebra.Group.Nat.Defs

/-!
# Texts of instants

Every part of the text of an instant is read back: numbers with their zeros, a year with its sign,
the fraction, the leap second. So the instants that some text gives are those whose day is in range
and whose nanoseconds exceed a second in the last second of a minute only
(`Instant.exists_parse?_iff`), and each of them is read back from its own text
(`Instant.parse?_text`).
-/

namespace CredStore

namespace Instant

open Calendar (Date)
open Text (skipBlank)

variable {c : Char} {rest : List Char}

/-! ## Numbers -/

theorem ofDigits_eq (ds : List Char) : ofDigits ds = Nat.ofDigitChars 10 ds 0 := by
  simp only [ofDigits, Nat.ofDigitChars_eq_foldl, Nat.mul_comm 10]
  rfl

theorem ofDigits_padded (width n : Nat) : ofDigits (padded width n) = n := by
  simp only [ofDigits_eq, padded, Nat.ofDigitChars_append, Nat.ofDigitChars_replicate_zero,
    Nat.mul_zero, Nat.ofDigitChars_ten_toDigits]

theorem ofDigits_lt (ds : List Char) (h : ∀ c ∈ ds, c.isDigit) :
    ofDigits ds < 10 ^ ds.length := by
  rw [ofDigits_eq]
  induction ds with
  | nil => simp [Nat.ofDigitChars_nil]
  | cons c ds ih =>
    obtain ⟨hc, hds⟩ := List.forall_mem_cons.1 h
    have hdigit := Char.isDigit_iff_toNat.1 hc
    have hle : c.toNat - '0'.toNat ≤ 9 := by
      have : '0'.toNat = 48 ∧ '9'.toNat = 57 := by decide
      omega
    have hbound := ih hds
    rw [Nat.ofDigitChars_cons, Nat.ofDigitChars_eq_ofDigitChars_zero, Nat.mul_zero, Nat.zero_add]
    calc 10 ^ ds.length * (c.toNat - '0'.toNat) + Nat.ofDigitChars 10 ds 0
        < 10 ^ ds.length * (c.toNat - '0'.toNat) + 10 ^ ds.length := Nat.add_lt_add_left hbound _
      _ ≤ 10 ^ ds.length * 9 + 10 ^ ds.length :=
        Nat.add_le_add_right (Nat.mul_le_mul_left _ hle) _
      _ = 10 ^ (c :: ds).length := by rw [List.length_cons, Nat.pow_succ]; omega

theorem isDigit_of_mem_padded {width n : Nat} (h : c ∈ padded width n) : c.isDigit := by
  rcases List.mem_append.1 h with h | h
  · rw [List.eq_of_mem_replicate h]
    rfl
  · exact Nat.isDigit_of_mem_toDigits (by decide) (by decide) h

theorem length_padded {width n : Nat} (hwidth : 0 < width) (h : n < 10 ^ width) :
    (padded width n).length = width := by
  have := (Nat.length_toDigits_le_iff (by decide) hwidth).2 h
  rw [padded, List.length_append, List.length_replicate]
  omega

theorem padded_ne_nil (width n : Nat) : padded width n ≠ [] :=
  List.append_ne_nil_of_right_ne_nil _ Nat.toDigits_ne_nil

theorem takeWhile_digits {ds : List Char} (hds : ∀ c ∈ ds, c.isDigit) (hc : ¬c.isDigit) :
    (ds ++ c :: rest).takeWhile Char.isDigit = ds := by
  rw [List.takeWhile_append_of_pos hds, List.takeWhile_cons_of_neg hc, List.append_nil]

/-- A number ends where no digit follows. -/
theorem number?_padded {most width n : Nat} (h : (padded width n).length ≤ most)
    (hc : ¬c.isDigit) : number? most (padded width n ++ c :: rest) = some (n, c :: rest) := by
  have hne : (padded width n).isEmpty = false := List.isEmpty_eq_false_iff.2 (padded_ne_nil _ _)
  simp only [number?, takeWhile_digits (fun _ => isDigit_of_mem_padded) hc,
    List.take_of_length_le h, hne, ofDigits_padded, List.drop_left]
  rfl

theorem not_isBlank_of_isDigit (h : c.isDigit) : Text.isBlank c = false := by
  have hdigit := Char.isDigit_iff_toNat.1 h
  have : '0'.toNat = 48 ∧ '9'.toNat = 57 := by decide
  simp only [Text.isBlank, Bool.or_eq_false_iff, Bool.and_eq_false_iff, decide_eq_false_iff_not,
    beq_eq_false_iff_ne]
  omega

theorem skipBlank_padded (width n : Nat) :
    skipBlank (padded width n ++ rest) = padded width n ++ rest := by
  obtain ⟨d, ds, hds⟩ := List.exists_cons_of_ne_nil (padded_ne_nil width n)
  have hd : d.isDigit := isDigit_of_mem_padded (hds ▸ List.mem_cons_self)
  rw [hds, List.cons_append, skipBlank,
    List.dropWhile_cons_of_neg (by simp [not_isBlank_of_isDigit hd])]

theorem field?_padded {n : Nat} (h : n < 100) (hc : ¬c.isDigit) :
    field? (padded 2 n ++ c :: rest) = some (n, c :: rest) := by
  rw [field?, skipBlank_padded]
  exact number?_padded (Nat.le_of_eq (length_padded (by decide) h)) hc

/-! ## Dates -/

/-- A year of four digits stands without a sign, and any other with one, whatever its length. -/
theorem year?_yearText (year : Int) (hc : ¬c.isDigit) :
    year? (yearText year ++ c :: rest) = some (year, c :: rest) := by
  have hsigned : ∀ n, number? (padded 4 n ++ c :: rest).length (padded 4 n ++ c :: rest) =
      some (n, c :: rest) := fun n =>
    number?_padded (by rw [List.length_append]; exact Nat.le_add_right _ _) hc
  unfold yearText
  by_cases hfour : 0 ≤ year ∧ year ≤ 9999
  · rw [if_pos hfour]
    have hread : number? 4 (padded 4 year.toNat ++ c :: rest) = some (year.toNat, c :: rest) :=
      number?_padded (Nat.le_of_eq (length_padded (by decide) (by omega))) hc
    obtain ⟨d, ds, hds⟩ := List.exists_cons_of_ne_nil (padded_ne_nil 4 year.toNat)
    have hd : d.isDigit := isDigit_of_mem_padded (hds ▸ List.mem_cons_self)
    have hminus : d ≠ '-' := by rintro rfl; cases hd
    have hplus : d ≠ '+' := by rintro rfl; cases hd
    have hcast : (year.toNat : Int) = year := Int.toNat_of_nonneg hfour.1
    rw [year?, skipBlank_padded, hds, List.cons_append]
    rw [hds, List.cons_append] at hread
    simp [hminus, hplus, hread, hcast]
  · rw [if_neg hfour, List.cons_append]
    by_cases hneg : year < 0
    · have hcast : -(year.natAbs : Int) = year := by omega
      rw [if_pos hneg]
      show (number? _ _).map (fun p => (-(p.1 : Int), p.2)) = _
      simp only [hsigned, Option.map_some, hcast]
    · have hcast : (year.natAbs : Int) = year := by omega
      rw [if_neg hneg]
      show (number? _ _).map (fun p => ((p.1 : Int), p.2)) = _
      simp only [hsigned, Option.map_some, hcast]

theorem date?_text {d : Date} (h : d.isValid) (hc : ¬c.isDigit) :
    date? (yearText d.year ++ '-' :: (padded 2 d.month ++ '-' :: (padded 2 d.day ++ c :: rest))) =
      some (d, c :: rest) := by
  obtain ⟨⟨⟨-, hmonth⟩, -⟩, hday⟩ : ((1 ≤ d.month ∧ d.month ≤ 12) ∧ 1 ≤ d.day) ∧
      d.day ≤ Calendar.monthLength d.year d.month := by
    simpa [Date.isValid] using h
  have hlength : Calendar.monthLength d.year d.month ≤ 31 := by
    unfold Calendar.monthLength
    grind
  have hmark : ∀ s, mark? '-' ('-' :: s) = some s := fun _ => rfl
  simp only [date?, year?_yearText _ (show ¬('-').isDigit by decide), Option.bind_eq_bind,
    Option.bind_some, hmark, field?_padded (show d.month < 100 by omega)
      (show ¬('-').isDigit by decide), field?_padded (show d.day < 100 by omega) hc]
  rfl

/-! ## Times -/

theorem fraction?_padded {width n : Nat} (hwidth : 0 < width) (hmost : width ≤ 9)
    (h : n < 10 ^ width) (hc : ¬c.isDigit) :
    fraction? ('.' :: (padded width n ++ c :: rest)) = some (n * 10 ^ (9 - width), c :: rest) := by
  have hne : (padded width n).isEmpty = false := List.isEmpty_eq_false_iff.2 (padded_ne_nil _ _)
  have htake : (padded width n).take 9 = padded width n :=
    List.take_of_length_le ((length_padded hwidth h).symm ▸ hmost)
  simp only [fraction?, takeWhile_digits (fun _ => isDigit_of_mem_padded) hc, hne, htake,
    ofDigits_padded, length_padded hwidth h]
  simp [length_padded hwidth h]

/-- The shortest exact fraction is exact. -/
theorem fraction?_fractionText {nanos : Nat} (h : nanos < 1000000000) (hc : ¬c.isDigit)
    (hpoint : c ≠ '.') :
    fraction? (fractionText nanos ++ c :: rest) = some (nanos, c :: rest) := by
  unfold fractionText
  split
  · subst nanos
    simp [fraction?, hpoint]
  split
  · rw [List.cons_append, fraction?_padded (by decide) (by decide) (by omega) hc]
    congr 2
    omega
  split
  · rw [List.cons_append, fraction?_padded (by decide) (by decide) (by omega) hc]
    congr 2
    omega
  · rw [List.cons_append, fraction?_padded (by decide) (by decide) (by omega) hc]
    congr 2
    omega

theorem exists_fractionText (nanos : Nat) (rest : List Char) (hc : ¬c.isDigit) :
    ∃ d ds, fractionText nanos ++ c :: rest = d :: ds ∧ ¬d.isDigit := by
  have hpoint : ¬('.').isDigit := by decide
  unfold fractionText
  split
  · exact ⟨c, rest, rfl, hc⟩
  split
  · exact ⟨_, _, rfl, hpoint⟩
  split
  · exact ⟨_, _, rfl, hpoint⟩
  · exact ⟨_, _, rfl, hpoint⟩

/-- The sixtieth second of a minute is a leap second. -/
theorem time?_text {hour minute second nanos : Nat} (hhour : hour < 24) (hminute : minute < 60)
    (hsecond : second < 61) (hnanos : nanos < 1000000000) :
    time? (padded 2 hour ++ ':' :: (padded 2 minute ++ ':' ::
      (padded 2 second ++ (fractionText nanos ++ ['Z'])))) =
      some (if second = 60 then (hour * 3600 + minute * 60 + 59, nanos + 1000000000, ['Z'])
        else (hour * 3600 + minute * 60 + second, nanos, ['Z'])) := by
  have hmark : ∀ s, mark? ':' (':' :: s) = some s := fun _ => rfl
  have hcolon : ¬(':').isDigit := by decide
  have hzed : ¬('Z').isDigit := by decide
  have hread : field? (padded 2 second ++ (fractionText nanos ++ ['Z'])) =
      some (second, fractionText nanos ++ ['Z']) := by
    obtain ⟨d, ds, heq, hd⟩ := exists_fractionText nanos [] hzed
    rw [heq]
    exact field?_padded (by omega) hd
  have hbounds : ¬(24 ≤ hour ∨ 60 ≤ minute ∨ 61 ≤ second) := by omega
  simp only [time?, Option.bind_eq_bind, field?_padded (show hour < 100 by omega) hcolon, hmark,
    field?_padded (show minute < 100 by omega) hcolon, hread, Option.bind_some,
    fraction?_fractionText hnanos hzed (by decide), if_neg hbounds]
  split <;> rfl

/-- Nanoseconds exceed a second in the last second of a minute only, which is then a leap second. -/
def IsNanos (second : Int) (nanos : Nat) : Prop :=
  nanos < 1000000000 ∨ nanos < 2000000000 ∧ second % 60 = 59

/-- The nanoseconds of a leap second are written without the second that they exceed. -/
theorem time?_secondText {second nanos : Nat} (h : second < 86400) (hnanos : IsNanos second nanos) :
    time? (padded 2 (second / 3600) ++ ':' :: (padded 2 (second / 60 % 60) ++ ':' ::
      (padded 2 (second % 60 + if 1000000000 ≤ nanos then 1 else 0) ++
        (fractionText (if 1000000000 ≤ nanos then nanos - 1000000000 else nanos) ++ ['Z'])))) =
      some (second, nanos, ['Z']) := by
  unfold IsNanos at hnanos
  split
  · rw [time?_text (by omega) (by omega) (by omega) (by omega), if_pos (by omega)]
    simp only [Option.some.injEq, Prod.mk.injEq, and_true]
    omega
  · rw [time?_text (by omega) (by omega) (by omega) (by omega), if_neg (by omega)]
    simp only [Option.some.injEq, Prod.mk.injEq, and_true]
    omega

/-! ## Instants -/

/-- `t` lies on a day in range, and its nanoseconds are those of its second. -/
structure IsReadable (t : Instant) : Prop where
  day : inRange (t.seconds / 86400)
  nanos : IsNanos t.seconds t.nanos

theorem make?_ofDays {seconds : Int} {second nanos : Nat} (h : inRange (seconds / 86400))
    (hsecond : seconds % 86400 = second) :
    make? (Date.ofDays (seconds / 86400)) second nanos 0 = some ⟨seconds, nanos⟩ := by
  have heq : seconds / 86400 * 86400 + (second : Int) - 0 = seconds := by omega
  simp only [make?, Date.toDays_ofDays, Date.isValid_ofDays, heq, h]
  rfl

/-- **An instant is read back from its text.** -/
theorem parse?_text {t : Instant} (h : t.IsReadable) : parse? t.text = some t := by
  obtain ⟨second, hsecond⟩ : ∃ second : Nat, t.seconds % 86400 = second :=
    ⟨(t.seconds % 86400).toNat, by omega⟩
  have hnanos : IsNanos second t.nanos := by
    have := h.nanos
    unfold IsNanos at *
    omega
  have hlt : second < 86400 := by omega
  have hdate := fun rest : List Char =>
    @date?_text 'T' rest _ (Date.isValid_ofDays (t.seconds / 86400)) (by decide)
  have htime := time?_secondText hlt hnanos
  have hzone : zone? ['Z'] = some (0, []) := rfl
  simp only [parse?, text, String.toList_ofList, List.append_assoc, List.cons_append,
    hsecond, Int.toNat_natCast, hdate, htime, hzone, Option.bind_eq_bind, Option.bind_some]
  exact make?_ofDays h.day hsecond

-- a leap second, in another zone, with short fields
example : (parse? "2017-1-1t01:29:60.5+01:30").map text = some "2016-12-31T23:59:60.500Z" := by
  rfl

/-! ## What a text gives -/

theorem fraction?_lt {s rest : List Char} {nanos : Nat} (h : fraction? s = some (nanos, rest)) :
    nanos < 1000000000 := by
  unfold fraction? at h
  split at h
  · rename_i tail
    simp only [Option.ite_none_left_eq_some, Option.some.injEq, Prod.mk.injEq] at h
    obtain ⟨-, rfl, -⟩ := h
    obtain ⟨ds, hds⟩ : ∃ ds, ds = (tail.takeWhile Char.isDigit).take 9 := ⟨_, rfl⟩
    rw [← hds]
    have hlen : ds.length ≤ 9 := by rw [hds, List.length_take]; omega
    have hlt := ofDigits_lt ds fun c hc =>
      List.all_eq_true.1 List.all_takeWhile c (List.mem_of_mem_take (hds ▸ hc))
    calc ofDigits ds * 10 ^ (9 - ds.length)
        < 10 ^ ds.length * 10 ^ (9 - ds.length) :=
          Nat.mul_lt_mul_of_pos_right hlt (Nat.pow_pos (by decide))
      _ = 1000000000 := by rw [← Nat.pow_add, Nat.add_sub_cancel' hlen]
  · cases h
    decide

theorem isNanos_of_time? {s rest : List Char} {second nanos : Nat}
    (h : time? s = some (second, nanos, rest)) : IsNanos second nanos := by
  simp only [time?, Option.bind_eq_bind, Option.bind_eq_some_iff, Prod.exists] at h
  obtain ⟨hour, _, -, _, -, minute, _, -, _, -, s, _, -, n, _, hn, h⟩ := h
  have hlt := fraction?_lt hn
  unfold IsNanos
  split at h
  · cases h
  split at h
  · cases h
    omega
  · cases h
    exact .inl hlt

/-- An offset has whole minutes. -/
theorem offset?_emod {s rest : List Char} {n : Nat} (h : offset? s = some (n, rest)) :
    n % 60 = 0 := by
  unfold offset? at h
  repeat' split at h
  · cases h
    omega
  all_goals cases h

theorem zone?_emod {s rest : List Char} {offset : Int} (h : zone? s = some (offset, rest)) :
    offset % 60 = 0 := by
  simp only [zone?] at h
  split at h
  · cases h
    rfl
  split at h
  · cases h
  split at h
  · cases h
    rfl
  split at h
  · obtain ⟨⟨n, _⟩, hn, heq⟩ := Option.map_eq_some_iff.1 h
    have := offset?_emod hn
    cases heq
    omega
  split at h
  · obtain ⟨⟨n, _⟩, hn, heq⟩ := Option.map_eq_some_iff.1 h
    have := offset?_emod hn
    cases heq
    omega
  · cases h

theorem make?_eq_some {date : Date} {second nanos : Nat} {offset : Int} {t : Instant}
    (h : make? date second nanos offset = some t) :
    inRange (t.seconds / 86400) ∧
      t.seconds = date.toDays * 86400 + second - offset ∧ t.nanos = nanos := by
  simp only [make?] at h
  split at h
  · rename_i hcond
    cases h
    exact ⟨(Bool.and_eq_true _ _ ▸ hcond).2, rfl, rfl⟩
  · cases h

/-- Whatever the text says, the offset leaves the seconds of the minute as they are. -/
theorem isReadable_of_parse? {s : String} {t : Instant} (h : parse? s = some t) :
    t.IsReadable := by
  simp only [parse?, Option.bind_eq_bind, Option.bind_eq_some_iff, Prod.exists] at h
  obtain ⟨date, rest, -, h⟩ := h
  split at h
  · split at h
    · simp only [Option.bind_eq_some_iff, Prod.exists] at h
      obtain ⟨second, nanos, _, htime, offset, _, hzone, h⟩ := h
      split at h
      · obtain ⟨hday, hseconds, hnanos⟩ := make?_eq_some h
        have htime := isNanos_of_time? htime
        have hzone := zone?_emod hzone
        refine ⟨hday, ?_⟩
        unfold IsNanos at *
        omega
      · cases h
    · cases h
  · cases h

/-- **Which instants a text gives.** -/
theorem exists_parse?_iff {t : Instant} : (∃ s, parse? s = some t) ↔ t.IsReadable :=
  ⟨fun ⟨_, h⟩ => isReadable_of_parse? h, fun h => ⟨t.text, parse?_text h⟩⟩

/-! ## Documents -/

theorem decoder_eq_ok {j : Json} {t : Instant} :
    decoder j = .ok t ↔ ∃ s, j = .text s ∧ parse? s = some t := by
  cases j with
  | text s =>
    simp only [decoder, ofText, mapError_eq_ok]
    cases h : parse? s with
    | none => simp [h]
    | some t => simp [h]
  | _ => simp [decoder]

theorem reads_iff {t : Instant} : decoder.Reads t ↔ t.IsReadable := by
  simp only [Decoder.Reads, decoder_eq_ok, ← exists_parse?_iff]
  exact ⟨fun ⟨_, s, _, h⟩ => ⟨s, h⟩, fun ⟨s, h⟩ => ⟨.text s, s, rfl, h⟩⟩

end Instant

/-- **An instant that was read is read back from its document**, whatever text it was read from. -/
theorem restores_instant : Instant.decoder.Restores Instant.toJson id where
  decoder_toJson ht :=
    Instant.decoder_eq_ok.2 ⟨_, rfl, Instant.parse?_text (Instant.reads_iff.1 ht)⟩
  toJson_kept _ := rfl

end CredStore
