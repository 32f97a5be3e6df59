import CredStore.Proofs.Url.Authority
import Mathlib.Data.List.Basic

/-!
# The layout of a URL of the web

Without breaks, a text that is read as a URL of the web is made of blanks, a scheme and its colon,
slashes, an authority, what stands behind the authority, and blanks again (`exists_layout`). The
URL is made of the scheme, the authority and what stands behind it (`Layout.parse_eq`).
-/

namespace CredStore.Url

variable {toAscii : DomainToAscii}

/-! ## Blanks around a text -/

/-- The text neither begins nor ends with a blank. -/
structure Trimmed (t : List Char) : Prop where
  head : ∀ c ∈ t.head?, isEdge c = false
  last : ∀ c ∈ t.getLast?, isEdge c = false

theorem trim_eq {lead t trail : List Char} (hlead : ∀ c ∈ lead, isEdge c)
    (htrail : ∀ c ∈ trail, isEdge c) (ht : Trimmed t) : trim (lead ++ t ++ trail) = t := by
  have hlast : ∀ c ∈ t.reverse.head?, isEdge c = false := by
    rw [List.head?_reverse]
    exact ht.last
  have hback : (trail.reverse ++ t.reverse).dropWhile isEdge = t.reverse := by
    rw [List.dropWhile_append_of_pos fun c hc => htrail c (List.mem_reverse.1 hc)]
    exact dropWhile_of_head hlast
  show (((lead ++ t ++ trail).dropWhile isEdge).reverse.dropWhile isEdge).reverse = t
  rw [List.append_assoc, List.dropWhile_append_of_pos hlead]
  cases t with
  | nil =>
    rw [List.nil_append, List.dropWhile_eq_nil_iff.2 htrail]
    rfl
  | cons c t =>
    have hfront : (c :: t ++ trail).dropWhile isEdge = c :: t ++ trail := dropWhile_of_head ht.head
    rw [hfront, List.reverse_append, hback, List.reverse_reverse]

theorem exists_trim (s : List Char) : ∃ lead trail, s = lead ++ trim s ++ trail ∧
    (∀ c ∈ lead, isEdge c) ∧ (∀ c ∈ trail, isEdge c) ∧ Trimmed (trim s) := by
  have hs := List.takeWhile_append_dropWhile (p := isEdge) (l := s)
  generalize hm : s.dropWhile isEdge = m at hs
  have ht := List.takeWhile_append_dropWhile (p := isEdge) (l := m.reverse)
  have htrim : trim s = (m.reverse.dropWhile isEdge).reverse := by rw [← hm]; rfl
  have hparts : m = trim s ++ (m.reverse.takeWhile isEdge).reverse := by
    rw [htrim, ← List.reverse_append, ht, List.reverse_reverse]
  refine ⟨s.takeWhile isEdge, (m.reverse.takeWhile isEdge).reverse, ?_, ?_, ?_, ?_, ?_⟩
  · rw [List.append_assoc, ← hparts, hs]
  · exact fun c hc => List.mem_takeWhile_imp hc
  · exact fun c hc => List.mem_takeWhile_imp (List.mem_reverse.1 hc)
  · intro c hc
    have hhead := List.head?_dropWhile_not isEdge s
    rw [hm, hparts, List.head?_append, hc, Option.some_or] at hhead
    exact hhead
  · intro c hc
    have hlast := List.head?_dropWhile_not isEdge m.reverse
    rw [htrim, List.getLast?_reverse] at hc
    rw [hc] at hlast
    exact hlast

theorem isEdge_of_isBreak {c : Char} (h : Path.isBreak c) : isEdge c := by
  simp only [Path.isBreak, Bool.or_eq_true, beq_iff_eq] at h
  rcases h with (rfl | rfl) | rfl <;> rfl

theorem keep_of_isEdge_eq {c : Char} (h : isEdge c = false) : (!Path.isBreak c) = true := by
  cases hb : Path.isBreak c with
  | false => rfl
  | true =>
    rw [isEdge_of_isBreak hb] at h
    cases h

theorem unbroken_append (s t : List Char) : unbroken (s ++ t) = unbroken s ++ unbroken t :=
  List.filter_append ..

theorem mem_of_mem_unbroken {s : List Char} {c : Char} (h : c ∈ unbroken s) : c ∈ s :=
  (List.mem_filter.1 h).1

theorem Trimmed.unbroken {t : List Char} (ht : Trimmed t) : Trimmed (unbroken t) := by
  refine ⟨fun c hc => ?_, fun c hc => ?_⟩
  · cases t with
    | nil => cases hc
    | cons d t =>
      have hd := ht.head d rfl
      have hfirst : Url.unbroken (d :: t) = d :: Url.unbroken t :=
        List.filter_cons_of_pos (keep_of_isEdge_eq hd)
      rw [hfirst] at hc
      cases hc
      exact hd
  · rcases List.eq_nil_or_concat' t with rfl | ⟨t, d, rfl⟩
    · cases hc
    · have hd := ht.last d List.getLast?_concat
      have hlast : Url.unbroken [d] = [d] := List.filter_cons_of_pos (keep_of_isEdge_eq hd)
      rw [unbroken_append, hlast, List.getLast?_concat] at hc
      cases hc
      exact hd

/-- Breaks at the ends of a text are blanks, so that they may be taken away first. -/
theorem unbroken_trim (s : List Char) : unbroken (trim s) = trim (unbroken s) := by
  obtain ⟨lead, trail, hs, hlead, htrail, ht⟩ := exists_trim s
  conv => rhs; rw [hs, unbroken_append, unbroken_append]
  exact (trim_eq (fun c hc => hlead c (mem_of_mem_unbroken hc))
    (fun c hc => htrail c (mem_of_mem_unbroken hc)) ht.unbroken).symm

/-! ## Schemes -/

/-- A scheme begins with a letter. -/
structure IsScheme (name : List Char) : Prop where
  chars : ∀ c ∈ name, inScheme c
  head : ∃ c ∈ name.head?, c.isAlpha

theorem splitScheme?_eq_some {s k rest : List Char} :
    splitScheme? s = some (k, rest) ↔
      ∃ name, IsScheme name ∧ s = name ++ ':' :: rest ∧ k = name.map Char.toLower := by
  unfold splitScheme?
  rw [List.span_eq_takeWhile_dropWhile]
  constructor
  · intro h
    have hparts := List.takeWhile_append_dropWhile (p := inScheme) (l := s)
    split at h
    · rename_i c name rest' hhead hspan
      obtain ⟨hname, hrest⟩ := Prod.mk.inj hspan
      have hchars : ∀ d ∈ name, inScheme d := fun d hd =>
        List.mem_takeWhile_imp (hname.symm ▸ hd)
      rw [hname, hrest] at hparts
      split at h
      · rename_i hc
        cases h
        refine ⟨name, ⟨hchars, ?_⟩, hparts.symm, rfl⟩
        cases name with
        | nil =>
          rw [← hparts] at hhead
          cases hhead
          cases hc
        | cons d name =>
          rw [← hparts] at hhead
          exact ⟨c, hhead, hc⟩
      · cases h
    · cases h
  · rintro ⟨name, ⟨hchars, c, hc, halpha⟩, rfl, rfl⟩
    have hcolon : ∀ d ∈ (':' :: rest).head?, inScheme d = false := by
      rintro d ⟨⟩
      rfl
    have hall : name.dropWhile inScheme = [] := List.dropWhile_eq_nil_iff.2 hchars
    rw [takeWhile_append_of_head hcolon, dropWhile_append_of_head hcolon,
      List.takeWhile_eq_self_iff.2 hchars, hall, List.head?_append, hc]
    exact if_pos halpha

theorem parse_web {s : String} {k rest : List Char}
    (h : splitScheme? (unbroken (trim s.toList)) = some (k, rest)) (hk : SchemeKind.of k = .web) :
    parse toAscii s = readAuthority toAscii true k (rest.dropWhile (Path.isSeparator true)) := by
  unfold parse
  dsimp only
  rw [h]
  dsimp only
  rw [hk]

theorem readAuthority_scheme {web : Bool} {k s : List Char} {u : Url}
    (h : readAuthority toAscii web k s = .ok u) : u.scheme = k := by
  unfold readAuthority at h
  dsimp only at h
  split at h
  · obtain ⟨r, -, hr⟩ := bind_eq_ok.1 h
    cases hr
    rfl
  · split at h
    · cases h
    · obtain ⟨r, -, hr⟩ := bind_eq_ok.1 h
      split at hr
      · cases hr
      · cases hr
        rfl

theorem readFileHost_scheme {k s : List Char} {u : Url} (h : readFileHost toAscii k s = .ok u) :
    u.scheme = k := by
  unfold readFileHost at h
  extract_lets text rest at h
  split at h
  · cases h
    rfl
  · split at h
    · cases h
      rfl
    · obtain ⟨host, -, hr⟩ := bind_eq_ok.1 h
      split at hr
      · cases hr
        rfl
      · cases hr
        rfl

theorem readFile_scheme {k s : List Char} {u : Url} (h : readFile toAscii k s = .ok u) :
    u.scheme = k := by
  unfold readFile at h
  split at h
  · cases h
    rfl
  · split at h
    · cases h
      rfl
    · exact readFileHost_scheme h

/-- The scheme of a URL is the one that stands at the beginning of the text. -/
theorem splitScheme?_of_parse {s : String} {u : Url} (h : parse toAscii s = .ok u) :
    ∃ rest, splitScheme? (unbroken (trim s.toList)) = some (u.scheme, rest) := by
  unfold parse at h
  dsimp only at h
  split at h
  · cases h
  · rename_i k rest hscheme
    refine ⟨rest, hscheme.trans ?_⟩
    have hk : u.scheme = k := by
      split at h
      · exact readAuthority_scheme h
      · exact readFile_scheme h
      · exact readAuthority_scheme h
      · cases h
        rfl
      · cases h
        rfl
    rw [hk]

/-- A letter begins no blank. -/
theorem IsScheme.isEdge_eq {name : List Char} (h : IsScheme name) {c : Char}
    (hc : c ∈ name) : isEdge c = false := by
  cases hedge : isEdge c with
  | false => rfl
  | true =>
    have hno := forall_isEdge (P := (inScheme · = false)) (by decide) hedge
    rw [h.chars c hc] at hno
    cases hno

theorem IsScheme.ne_nil {name : List Char} (h : IsScheme name) : name ≠ [] := by
  rintro rfl
  obtain ⟨c, hc, -⟩ := h.head
  cases hc

theorem getLast?_behind_scheme {name slashes t : List Char} (ht : t ≠ []) :
    (name ++ ':' :: (slashes ++ t)).getLast? = t.getLast? := by
  rw [List.getLast?_append_cons, ← List.cons_append, List.getLast?_append_of_ne_nil _ ht]

/-! ## Layouts -/

/-- The parts of the text of a URL of the web. -/
structure Layout where
  lead : List Char := []
  name : List Char
  slashes : List Char
  front : List Char
  back : List Char
  trail : List Char := []

namespace Layout

/-- The parts in one line. -/
def text (p : Layout) : List Char :=
  p.lead ++ (p.name ++ ':' :: (p.slashes ++ (p.front ++ p.back))) ++ p.trail

/-- The scheme in lower case. -/
def scheme (p : Layout) : List Char :=
  p.name.map Char.toLower

/-- Each part holds what it may hold. -/
structure Ok (p : Layout) : Prop where
  lead : ∀ c ∈ p.lead, isEdge c
  name : IsScheme p.name
  web : SchemeKind.of p.scheme = .web
  slashes : ∀ c ∈ p.slashes, Path.isSeparator true c
  front : InAuthority p.front
  front_ne : p.front ≠ []
  back : AtEnd p.back
  last : ∀ c ∈ (p.front ++ p.back).getLast?, isEdge c = false
  trail : ∀ c ∈ p.trail, isEdge c

variable {p : Layout} {s : String}

theorem Ok.trimmed (h : p.Ok) : Trimmed (p.name ++ ':' :: (p.slashes ++ (p.front ++ p.back))) := by
  constructor
  · intro c hc
    rw [List.head?_append_of_ne_nil _ h.name.ne_nil] at hc
    exact h.name.isEdge_eq (List.mem_of_mem_head? hc)
  · intro c hc
    rw [getLast?_behind_scheme (List.append_ne_nil_of_left_ne_nil h.front_ne _)] at hc
    exact h.last c hc

theorem endsAuthority_of_isSeparator {c : Char} (h : Path.isSeparator true c) :
    endsAuthority true c = true := by
  rw [endsAuthority_iff]
  simp only [Path.isSeparator, Bool.true_and, Bool.or_eq_true, beq_iff_eq] at h
  exact h.imp_right .inl

/-- The slashes end where the authority begins. -/
theorem Ok.dropWhile_slashes (h : p.Ok) (s : List Char) :
    (p.slashes ++ (p.front ++ s)).dropWhile (Path.isSeparator true) = p.front ++ s := by
  have hhead : ∀ c ∈ (p.front ++ s).head?, Path.isSeparator true c = false := by
    intro c hc
    rw [List.head?_append_of_ne_nil _ h.front_ne] at hc
    have hfront := h.front c (List.mem_of_mem_head? hc)
    cases hsep : Path.isSeparator true c with
    | false => rfl
    | true =>
      rw [endsAuthority_of_isSeparator hsep] at hfront
      cases hfront
  rw [dropWhile_append_of_head hhead, List.dropWhile_eq_nil_iff.2 h.slashes, List.nil_append]

/-- **What is read from a text of such parts.** -/
theorem Ok.parse_eq (h : p.Ok) (hs : unbroken s.toList = p.text) :
    parse toAscii s = (readAuthority toAscii true p.scheme p.front).map fun u =>
      withTail u true (pathAfterAuthority true) p.back := by
  have htext : unbroken (trim s.toList) = p.name ++ ':' :: (p.slashes ++ (p.front ++ p.back)) := by
    rw [unbroken_trim, hs]
    exact trim_eq h.lead h.trail h.trimmed
  have hscheme := splitScheme?_eq_some.2 ⟨p.name, h.name, htext, rfl⟩
  rw [parse_web hscheme h.web, h.dropWhile_slashes]
  exact readAuthority_append h.front h.back

/-- The same scheme in front of another authority, without blanks at the end. -/
theorem Ok.parse_of_end (h : p.Ok) {front back : List Char} (hfront : InAuthority front)
    (hne : front ≠ []) (hback : AtEnd back)
    (hlast : ∀ c ∈ (front ++ back).getLast?, isEdge c = false)
    (hs : unbroken s.toList = p.lead ++ (p.name ++ ':' :: (p.slashes ++ (front ++ back)))) :
    parse toAscii s = (readAuthority toAscii true p.scheme front).map fun u =>
      withTail u true (pathAfterAuthority true) back := by
  have hok : Ok { p with front, back, trail := [] } :=
    ⟨h.lead, h.name, h.web, h.slashes, hfront, hne, hback, hlast, nofun⟩
  exact hok.parse_eq (hs.trans (List.append_nil _).symm)

end Layout

theorem readAuthority_nil {k : List Char} (u : Url) : readAuthority toAscii true k [] ≠ .ok u :=
  nofun

/-- **A text that is read as a URL of the web is made of such parts.** -/
theorem exists_layout {s : String} {u : Url} (h : parse toAscii s = .ok u)
    (hweb : SchemeKind.of u.scheme = .web) :
    ∃ p : Layout, p.Ok ∧ unbroken s.toList = p.text ∧ p.scheme = u.scheme := by
  obtain ⟨rest, hscheme⟩ := splitScheme?_of_parse h
  obtain ⟨name, hname, htrim, hk⟩ := splitScheme?_eq_some.1 hscheme
  rw [parse_web hscheme hweb] at h
  rw [unbroken_trim] at htrim
  obtain ⟨lead, trail, hs, hlead, htrail, ht⟩ := exists_trim (unbroken s.toList)
  have hrest := List.takeWhile_append_dropWhile (p := Path.isSeparator true) (l := rest)
  generalize hafter : rest.dropWhile (Path.isSeparator true) = after at *
  have hparts := List.takeWhile_append_dropWhile (p := fun c => !endsAuthority true c) (l := after)
  have hfront : InAuthority (after.takeWhile fun c => !endsAuthority true c) := fun c hc => by
    simpa using List.mem_takeWhile_imp hc
  have hback : AtEnd (after.dropWhile fun c => !endsAuthority true c) := by
    intro c hc
    have hstop := List.head?_dropWhile_not (fun c => !endsAuthority true c) after
    rw [hc] at hstop
    simpa using hstop
  generalize after.takeWhile (fun c => !endsAuthority true c) = front at *
  generalize after.dropWhile (fun c => !endsAuthority true c) = back at *
  have hfront_ne : front ≠ [] := by
    rintro rfl
    rw [← hparts, readAuthority_append hfront hback] at h
    obtain ⟨v, hv, -⟩ := map_eq_ok.1 h
    exact readAuthority_nil v hv
  have htext : unbroken s.toList =
      lead ++ (name ++ ':' :: (rest.takeWhile (Path.isSeparator true) ++ (front ++ back))) ++
        trail := by
    rw [hparts, hrest, ← htrim]
    exact hs
  refine ⟨⟨lead, name, rest.takeWhile (Path.isSeparator true), front, back, trail⟩,
    ⟨hlead, hname, ?_, fun c hc => List.mem_takeWhile_imp hc, hfront, hfront_ne, hback, ?_, htrail⟩,
    htext, hk.symm⟩
  · exact (congrArg SchemeKind.of hk).symm.trans hweb
  · intro c hc
    refine ht.last c ?_
    rw [htrim, ← hrest, ← hparts,
      getLast?_behind_scheme (List.append_ne_nil_of_left_ne_nil hfront_ne _)]
    exact hc

end CredStore.Url
