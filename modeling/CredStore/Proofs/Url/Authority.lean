import CredStore.Proofs.Json.Decode
import CredStore.Url.Reader
import Mathlib.Data.List.TakeDrop
import Mathlib.Data.List.TakeWhile

/-!
# The authority of a URL of the web

The authority ends at the first `/`, `\`, `?` or `#`, and user, host and port are read from it
alone: whatever begins at such a mark can be put behind an authority, and the URL keeps its server
(`readAuthority_append`). An authority that ends in a blank has no host (`readAuthority_blank`).
-/

namespace CredStore.Url

/-! ## Cutting at the end of a run -/

section Cut

variable {α : Type} {p : α → Bool} {xs ys : List α}

/-- A run that stops at the second text ends within the first. -/
theorem takeWhile_append_of_head (h : ∀ y ∈ ys.head?, p y = false) :
    (xs ++ ys).takeWhile p = xs.takeWhile p := by
  induction xs with
  | nil =>
    cases ys with
    | nil => rfl
    | cons y ys => simp [h y rfl]
  | cons x xs ih =>
    rw [List.cons_append, List.takeWhile_cons, List.takeWhile_cons, ih]

theorem dropWhile_of_head (h : ∀ y ∈ ys.head?, p y = false) : ys.dropWhile p = ys := by
  cases ys with
  | nil => rfl
  | cons y ys => rw [List.dropWhile_cons_of_neg (by rw [h y rfl]; exact nofun)]

theorem dropWhile_append_of_head (h : ∀ y ∈ ys.head?, p y = false) :
    (xs ++ ys).dropWhile p = xs.dropWhile p ++ ys := by
  induction xs with
  | nil => exact dropWhile_of_head h
  | cons x xs ih =>
    rw [List.cons_append, List.dropWhile_cons, List.dropWhile_cons, ih]
    split <;> rfl

end Cut

/-! ## Authorities -/

/-- The text does not end an authority. -/
def InAuthority (s : List Char) : Prop :=
  ∀ c ∈ s, endsAuthority true c = false

/-- The text stands behind an authority: it is empty or begins with a mark that ends one. -/
def AtEnd (s : List Char) : Prop :=
  ∀ c ∈ s.head?, endsAuthority true c = true

variable {toAscii : DomainToAscii} {scheme f b : List Char}

theorem endsAuthority_iff {c : Char} :
    endsAuthority true c = true ↔ c = '/' ∨ c = '\\' ∨ c = '?' ∨ c = '#' := by
  simp only [endsAuthority, Bool.true_and, Bool.or_eq_true, beq_iff_eq]
  grind

theorem InAuthority.mono {g : List Char} (hf : InAuthority f) (h : ∀ c ∈ g, c ∈ f) :
    InAuthority g :=
  fun c hc => hf c (h c hc)

/-- No mark that ends an authority stands in it. -/
theorem InAuthority.ne_mark (hf : InAuthority f) {c : Char} (hc : c ∈ f) :
    ¬ (c = '/' ∨ c = '\\' ∨ c = '?' ∨ c = '#') := by
  rw [← endsAuthority_iff, hf c hc]
  exact Bool.false_ne_true

theorem InAuthority.append {g : List Char} (hf : InAuthority f) (hg : InAuthority g) :
    InAuthority (f ++ g) :=
  fun c hc => (List.mem_append.1 hc).elim (hf c) (hg c)

theorem atEnd_nil : AtEnd [] :=
  nofun

theorem AtEnd.append {a : List Char} (ha : AtEnd a) (hb : AtEnd b) : AtEnd (a ++ b) := by
  cases a with
  | nil => exact hb
  | cons d a => exact fun c hc => ha c hc

theorem takeWhile_authority (hf : InAuthority f) (hb : AtEnd b) :
    (f ++ b).takeWhile (fun c => !endsAuthority true c) = f := by
  have hstop : ∀ c ∈ b.head?, (!endsAuthority true c) = false := by
    intro c hc
    rw [hb c hc]
    rfl
  rw [takeWhile_append_of_head hstop]
  exact List.takeWhile_eq_self_iff.2 fun c hc => by rw [hf c hc]; rfl

theorem dropWhile_authority (hf : InAuthority f) (hb : AtEnd b) :
    (f ++ b).dropWhile (fun c => !endsAuthority true c) = b := by
  have hstop : ∀ c ∈ b.head?, (!endsAuthority true c) = false := by
    intro c hc
    rw [hb c hc]
    rfl
  rw [dropWhile_append_of_head hstop]
  have hnil : f.dropWhile (fun c => !endsAuthority true c) = [] :=
    List.dropWhile_eq_nil_iff.2 fun c hc => by rw [hf c hc]; rfl
  rw [hnil, List.nil_append]

/-! ## Host and port -/

theorem spanHost_append (inside : Bool) (hf : InAuthority f) (hb : AtEnd b) :
    spanHost true inside (f ++ b) =
      ((spanHost true inside f).1, (spanHost true inside f).2 ++ b) := by
  induction f generalizing inside with
  | nil =>
    cases b with
    | nil => rfl
    | cons c b =>
      have hc : endsAuthority true c = true := hb c rfl
      simp [spanHost, hc]
  | cons c f ih =>
    have ih := fun i => ih i (hf.mono fun d hd => List.mem_cons_of_mem _ hd)
    rw [List.cons_append, spanHost, spanHost]
    split
    · rfl
    · simp only [ih]

/-- In an authority the text of the host ends with it or at a colon. -/
theorem spanHost_cases (inside : Bool) (hf : InAuthority f) :
    f = (spanHost true inside f).1 ++ (spanHost true inside f).2 ∧
      ((spanHost true inside f).2 = [] ∨ ∃ r, (spanHost true inside f).2 = ':' :: r) := by
  induction f generalizing inside with
  | nil => exact ⟨rfl, .inl rfl⟩
  | cons c f ih =>
    have ih := fun i => ih i (hf.mono fun d hd => List.mem_cons_of_mem _ hd)
    have hc : endsAuthority true c = false := hf c List.mem_cons_self
    rw [spanHost]
    split
    · rename_i hcolon
      rw [hc, Bool.or_false, Bool.and_eq_true, beq_iff_eq] at hcolon
      exact ⟨rfl, .inr ⟨f, by rw [hcolon.1]⟩⟩
    · refine ⟨?_, (ih _).2⟩
      exact congrArg (c :: ·) (ih _).1

theorem readPort_append (hf : InAuthority f) (hb : AtEnd b) :
    readPort (f ++ b) = (readPort f).map fun r => (r.1, b) := by
  have hdigit : ∀ c ∈ b.head?, c.isDigit = false := by
    intro c hc
    rcases endsAuthority_iff.1 (hb c hc) with rfl | rfl | rfl | rfl <;> rfl
  unfold readPort
  simp only [takeWhile_append_of_head hdigit, dropWhile_append_of_head hdigit]
  split
  · rfl
  · cases hrest : f.dropWhile Char.isDigit with
    | nil =>
      cases b with
      | nil => rfl
      | cons d b => simp only [List.nil_append, if_pos (endsAuthority_iff.1 (hb d rfl)), map_ok]
    | cons d r =>
      have hd : d ∈ f := (List.dropWhile_sublist _).mem (hrest ▸ List.mem_cons_self)
      simp only [List.cons_append, if_neg (hf.ne_mark hd), map_error]

/-- What is read behind the text of a host: a colon and a port, or nothing. -/
def readBehind (scheme : List Char) (host : Host) (rest : List Char) :
    Except Error (Host × Option Nat × List Char) :=
  match rest with
  | ':' :: rest =>
    (readPort rest).map fun r => (host, if r.1 = usualPort? scheme then none else r.1, r.2)
  | rest => .ok (host, none, rest)

/-- On the web the text of a host is not empty. -/
theorem readHost_web (s : List Char) :
    readHost toAscii true scheme s =
      if (spanHost true false s).1 = [] then .error .emptyHost
      else (Host.parseWeb toAscii (spanHost true false s).1).bind fun host =>
        readBehind scheme host (spanHost true false s).2 := by
  unfold readHost
  generalize spanHost true false s = span
  obtain ⟨text, rest⟩ := span
  dsimp only
  cases text with
  | nil => rfl
  | cons c text =>
    simp only [List.isEmpty_cons, Bool.false_eq_true, and_false, if_false, if_true, reduceCtorEq]
    cases Host.parseWeb toAscii (c :: text) with
    | error e => rfl
    | ok host =>
      dsimp only [bind, Except.bind, ok_bind]
      split
      · rw [readBehind]
        cases readPort _ <;> rfl
      · rename_i hne
        rw [readBehind]
        · rfl
        · exact hne

theorem readBehind_append {host : Host} {rest : List Char} (hf : InAuthority rest) (hb : AtEnd b)
    (hrest : rest = [] ∨ ∃ r, rest = ':' :: r) :
    readBehind scheme host (rest ++ b) =
      (readBehind scheme host rest).map fun r => (r.1, r.2.1, b) := by
  rcases hrest with rfl | ⟨r, rfl⟩
  · cases b with
    | nil => rfl
    | cons d b =>
      have hd : d ≠ ':' := fun e => absurd (hb d rfl) (by rw [e]; decide)
      simp [readBehind, hd]
  · have hr : InAuthority r := hf.mono fun c hc => List.mem_cons_of_mem _ hc
    simp only [readBehind, List.cons_append, readPort_append hr hb]
    cases readPort r <;> rfl

theorem readHost_append (hf : InAuthority f) (hb : AtEnd b) :
    readHost toAscii true scheme (f ++ b) =
      (readHost toAscii true scheme f).map fun r => (r.1, r.2.1, b) := by
  obtain ⟨hspan, hcases⟩ := spanHost_cases false hf
  have hrest : InAuthority (spanHost true false f).2 :=
    hf.mono fun c hc => hspan ▸ List.mem_append_right _ hc
  rw [readHost_web, readHost_web, spanHost_append false hf hb]
  dsimp only
  split
  · rfl
  · cases Host.parseWeb toAscii (spanHost true false f).1 with
    | error e => rfl
    | ok host => exact readBehind_append hrest hb hcases

/-! ## The whole authority -/

/-- The text after the last `@` is part of the authority. -/
theorem splitUserinfo?_suffix {info after : List Char} (h : splitUserinfo? f = some (info, after)) :
    f = info ++ '@' :: after := by
  unfold splitUserinfo? at h
  rw [List.span_eq_takeWhile_dropWhile] at h
  have hparts := List.takeWhile_append_dropWhile (p := (· ≠ '@')) (l := f.reverse)
  have hstop := List.head?_dropWhile_not (· ≠ '@') f.reverse
  split at h
  · rename_i hspan
    cases h
    obtain ⟨rfl, hdrop⟩ := Prod.mk.inj hspan
    rw [hdrop] at hparts hstop
    simp only [List.head?_cons, ne_eq, decide_not, Bool.not_eq_false', decide_eq_true_eq] at hstop
    have hf := congrArg List.reverse hparts
    rw [List.reverse_reverse, hstop] at hf
    exact hf.symm.trans (by simp)
  · cases h

theorem InAuthority.behind_user {info after : List Char} (hf : InAuthority f)
    (h : splitUserinfo? f = some (info, after)) : InAuthority after :=
  hf.mono fun c hc => by
    rw [splitUserinfo?_suffix h]
    exact List.mem_append_right _ (List.mem_cons_of_mem _ hc)

/-- **Server and user are read from the authority alone**: what stands behind it changes only the
path, the query and the fragment. -/
theorem readAuthority_append (hf : InAuthority f) (hb : AtEnd b) :
    readAuthority toAscii true scheme (f ++ b) =
      (readAuthority toAscii true scheme f).map fun u =>
        withTail u true (pathAfterAuthority true) b := by
  have hfront := takeWhile_authority hf atEnd_nil
  have hback := dropWhile_authority hf atEnd_nil
  rw [List.append_nil] at hfront hback
  unfold readAuthority
  rw [takeWhile_authority hf hb, dropWhile_authority hf hb, hfront, hback]
  dsimp only
  cases hinfo : splitUserinfo? f with
  | none =>
    dsimp only
    rw [readHost_append hf hb]
    cases readHost toAscii true scheme f <;> rfl
  | some parts =>
    obtain ⟨info, after⟩ := parts
    have hafter := hf.behind_user hinfo
    dsimp only
    rw [readHost_append hafter hb, List.append_nil]
    -- an empty host is refused before the rest is looked at, and again when it is read
    by_cases hempty : after = []
    · subst hempty
      have hhost : readHost toAscii true scheme [] = .error .emptyHost := rfl
      simp only [hhost, List.isEmpty_nil, Bool.not_true, Bool.false_eq_true, and_false, if_false]
      split <;> rfl
    · simp only [List.isEmpty_iff, hempty, false_and, and_false, if_false]
      cases readHost toAscii true scheme after with
      | error e => rfl
      | ok r =>
        dsimp only [map_ok, bind, Except.bind]
        split <;> rfl

/-! ## Blanks -/

open Text.Percent in
/-- A character that has no part in a percent-encoded byte stands for itself. -/
theorem mem_decodeBytes {c : Char} (hhex : Text.hexValue? c = none) (hne : c ≠ '%')
    {s : List Char} (hc : c ∈ s) : ∀ b ∈ String.utf8EncodeChar c, b ∈ decodeBytes s := by
  intro b hb
  have hdigit {a : Char} {x : Nat} (ha : Text.hexValue? a = some x) : c ≠ a := by
    rintro rfl
    rw [hhex] at ha
    cases ha
  fun_induction decodeBytes s with
  | case1 a a' rest x y hx hy ih =>
    have hrest : c ∈ rest := by simpa [hne, hdigit hx, hdigit hy] using hc
    exact List.mem_cons_of_mem _ (ih hrest)
  | case2 a a' rest _ ih => exact List.mem_append_right _ (ih (List.mem_of_ne_of_mem hne hc))
  | case3 d rest _ ih =>
    rcases List.mem_cons.1 hc with rfl | hc
    · exact List.mem_append_left _ hb
    · exact List.mem_append_right _ (ih hc)
  | case4 => cases hc

/-- A blank or a control character. -/
def isEdge (c : Char) : Bool :=
  c.toNat ≤ 0x20

/-- There are few edges, so that a decidable property of all of them can be tried out. -/
theorem forall_isEdge {P : Char → Prop} (h : ∀ n < 0x21, P (Char.ofNat n)) {c : Char}
    (hc : isEdge c) : P c := by
  rw [← Char.ofNat_toNat c]
  exact h _ (Nat.lt_succ_of_le (of_decide_eq_true hc))

theorem inAuthority_of_isEdge {s : List Char} (h : ∀ c ∈ s, isEdge c) : InAuthority s :=
  fun c hc => forall_isEdge (P := (endsAuthority true · = false)) (by decide) (h c hc)

/-- A text with a blank has no form in ASCII: the blank would stay in it, where it is forbidden. -/
theorem name?_of_isEdge {c : Char} (hc : isEdge c) {s : List Char} (h : c ∈ s) :
    toAscii.name? (Text.Percent.decodeBytes s) = none := by
  have hhex := forall_isEdge (P := (Text.hexValue? · = none)) (by decide) hc
  have hne := forall_isEdge (P := (· ≠ '%')) (by decide) hc
  obtain ⟨b, hb, hle, hforbidden⟩ := forall_isEdge (P := fun c => ∃ b ∈ String.utf8EncodeChar c,
    b.toNat ≤ 0x20 ∧ Host.isForbiddenInName (Char.ofNat b.toNat)) (by decide +kernel) hc
  cases hname : toAscii.name? (Text.Percent.decodeBytes s) with
  | none => rfl
  | some name =>
    have hmem := toAscii.keeps hname (mem_decodeBytes hhex hne h b hb) hle
    rw [toAscii.allowed hname _ hmem] at hforbidden
    cases hforbidden

/-- The last character of a text stands behind every other one. -/
theorem getLast?_behind (x : List Char) {y : List Char} {c d : Char}
    (h : (x ++ d :: y).getLast? = some c) (hne : c ≠ d) : y.getLast? = some c := by
  rw [List.getLast?_append, List.getLast?_cons, Option.some_or] at h
  cases hy : y.getLast? with
  | none =>
    rw [hy] at h
    exact absurd (Option.some.inj h).symm hne
  | some e =>
    rw [hy] at h
    exact h

theorem parseWeb_blank {s : List Char} {c : Char} (hc : isEdge c) (h : s.getLast? = some c)
    (host : Host) : Host.parseWeb toAscii s ≠ .ok host := by
  unfold Host.parseWeb
  split
  · rename_i rest
    have hclose := forall_isEdge (P := (· ≠ ']')) (by decide) hc
    have hopen := forall_isEdge (P := (· ≠ '[')) (by decide) hc
    have hlast : rest.getLast? = some c := getLast?_behind [] h hopen
    rw [Host.bracketed, hlast, if_neg fun e => hclose (Option.some.inj e)]
    exact nofun
  · have hmem : c ∈ s := List.mem_of_getLast? h
    rw [name?_of_isEdge hc hmem]
    exact nofun

theorem readPort_blank {s : List Char} {c : Char} (hc : isEdge c) (h : s.getLast? = some c)
    (hs : InAuthority s) (r : Option Nat × List Char) : readPort s ≠ .ok r := by
  have hdigit := forall_isEdge (P := (·.isDigit = false)) (by decide) hc
  have hmem : c ∈ s := List.mem_of_getLast? h
  unfold readPort
  dsimp only
  split
  · exact nofun
  · cases hrest : s.dropWhile Char.isDigit with
    | nil =>
      rw [List.dropWhile_eq_nil_iff.1 hrest c hmem] at hdigit
      cases hdigit
    | cons d t =>
      have hd : d ∈ s := (List.dropWhile_sublist _).mem (hrest ▸ List.mem_cons_self)
      dsimp only
      rw [if_neg (hs.ne_mark hd)]
      exact nofun

theorem readHost_blank {c : Char} (hf : InAuthority f) (hc : isEdge c)
    (h : f.getLast? = some c) (r : Host × Option Nat × List Char) :
    readHost toAscii true scheme f ≠ .ok r := by
  have hcolon := forall_isEdge (P := (· ≠ ':')) (by decide) hc
  obtain ⟨hspan, hcases⟩ := spanHost_cases false hf
  rw [readHost_web]
  generalize (spanHost true false f).1 = text at *
  generalize (spanHost true false f).2 = rest at *
  subst hspan
  split
  · exact nofun
  · intro hok
    obtain ⟨host, hhost, hrest⟩ := bind_eq_ok.1 hok
    rcases hcases with rfl | ⟨port, rfl⟩
    · rw [List.append_nil] at h
      exact parseWeb_blank hc h host hhost
    · obtain ⟨q, hq, -⟩ := map_eq_ok.1 hrest
      have hport : InAuthority port :=
        hf.mono fun d hd => List.mem_append_right _ (List.mem_cons_of_mem _ hd)
      exact readPort_blank hc (getLast?_behind _ h hcolon) hport q hq

/-- **An authority that ends in a blank is refused.** -/
theorem readAuthority_blank {c : Char} (hf : InAuthority f) (hc : isEdge c)
    (h : f.getLast? = some c) (u : Url) : readAuthority toAscii true scheme f ≠ .ok u := by
  have hat := forall_isEdge (P := (· ≠ '@')) (by decide) hc
  have hfront := takeWhile_authority hf atEnd_nil
  have hback := dropWhile_authority hf atEnd_nil
  rw [List.append_nil] at hfront hback
  intro hu
  unfold readAuthority at hu
  rw [hfront, hback] at hu
  dsimp only at hu
  cases hinfo : splitUserinfo? f with
  | none =>
    rw [hinfo] at hu
    obtain ⟨r, hr, -⟩ := bind_eq_ok.1 hu
    exact readHost_blank hf hc h r hr
  | some parts =>
    obtain ⟨info, after⟩ := parts
    rw [hinfo] at hu
    dsimp only at hu
    have hafter := hf.behind_user hinfo
    rw [splitUserinfo?_suffix hinfo] at h
    rw [List.isEmpty_nil, List.append_nil] at hu
    simp only [Bool.not_true, Bool.false_eq_true, and_false, if_false] at hu
    obtain ⟨r, hr, -⟩ := bind_eq_ok.1 hu
    exact readHost_blank hafter hc (getLast?_behind _ h hat) r hr

end CredStore.Url
