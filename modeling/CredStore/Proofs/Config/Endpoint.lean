import CredStore.Config
import CredStore.Proofs.Request.Fill
import CredStore.Proofs.Request.Query
import CredStore.Proofs.Url.Layout

/-!
# Where requests go

The URL of a request is read from one text: the URL of the server, the mount and the path of the
request. It leads to the server of the configuration with the query of the path exactly when the
URL of the server is a base (`endpoint_keeps_iff`): it has no query and no fragment, and no blank
stands behind its authority. This holds whatever puts international names into ASCII. A
configuration that keeps its rules may have a URL that is no base.
-/

namespace CredStore

namespace Url

/-! ## Query and fragment -/

/-- The query and the fragment that a text behind an authority gives. -/
def tail (s : List Char) : Option (List Char) × Option (List Char) :=
  tailOf true (s.dropWhile fun c => !endsPath c)

variable {s y w : List Char}

theorem endsPath_eq_false {c : Char} : endsPath c = false ↔ c ≠ '?' ∧ c ≠ '#' := by
  simp [endsPath]

theorem tail_append (hy : ∀ c ∈ y, endsPath c = false) : tail (y ++ w) = tail w := by
  unfold tail
  rw [List.dropWhile_append_of_pos fun c hc => by rw [hy c hc]; rfl]

theorem tail_query (hy : ∀ c ∈ y, endsPath c = false) (hw : '#' ∉ w) :
    tail (y ++ '?' :: w) = (some (Text.Percent.encodeBy (inQuery true) w), none) := by
  have hall := Query.decide_ne_of_not_mem hw
  have hmark : tail ('?' :: w) = (some (Text.Percent.encodeBy (inQuery true)
      (w.takeWhile (· ≠ '#'))), fragmentOf (w.dropWhile (· ≠ '#'))) := rfl
  rw [tail_append hy, hmark, List.takeWhile_eq_self_iff.2 hall, List.dropWhile_eq_nil_iff.2 hall]
  rfl

theorem tail_fragment (h : '#' ∈ s) : (tail s).2 ≠ none := by
  obtain ⟨a, b, rfl, ha⟩ := List.eq_append_cons_of_mem h
  have hmark := Query.decide_ne_of_not_mem ha
  by_cases hquery : '?' ∈ a
  · obtain ⟨a, a', rfl, hnot⟩ := List.eq_append_cons_of_mem hquery
    have hends : ∀ c ∈ a, endsPath c = false := fun c hc => endsPath_eq_false.2
      ⟨fun e => hnot (e ▸ hc), of_decide_eq_true (hmark c (List.mem_append_left _ hc))⟩
    have hdrop : (a' ++ '#' :: b).dropWhile (· ≠ '#') = '#' :: b := by
      rw [List.dropWhile_append_of_pos fun c hc =>
        hmark c (List.mem_append_right _ (List.mem_cons_of_mem _ hc))]
      rfl
    have hsplit : tail ('?' :: (a' ++ '#' :: b)) = (_, fragmentOf _) := rfl
    rw [List.append_assoc, List.cons_append, tail_append hends, hsplit, hdrop]
    exact nofun
  · have hends : ∀ c ∈ a, endsPath c = false := fun c hc => endsPath_eq_false.2
      ⟨fun e => hquery (e ▸ hc), of_decide_eq_true (hmark c hc)⟩
    rw [tail_append hends]
    exact nofun

end Url

/-! ## The tail of a path -/

open Url

/-- The query of the URL of a path alone is the part after its `?`. -/
theorem Route.tail_path {s : List Char} (hs : ∀ c ∈ s, inPath c) :
    tail s = (Query.ofPath? s, none) := by
  have hends {c : Char} (hc : inPath c) (hne : c ≠ '?') : endsPath c = false :=
    forall_inPath (P := fun c => c ≠ '?' → endsPath c = false) (by decide) hc hne
  have hkeep {c : Char} (hc : inPath c) : inQuery true c :=
    forall_inPath (P := (inQuery true ·)) (by decide) hc
  have hmark : '#' ∉ s := fun h => absurd (hs _ h) (by decide)
  by_cases hquery : '?' ∈ s
  · obtain ⟨a, b, rfl, ha⟩ := List.eq_append_cons_of_mem hquery
    have hb : ∀ c ∈ b, inPath c := fun c hc =>
      hs c (List.mem_append_right _ (List.mem_cons_of_mem _ hc))
    rw [tail_query (fun c hc => hends (hs c (List.mem_append_left _ hc)) fun e => ha (e ▸ hc))
        (fun h => absurd (hb _ h) (by decide)), Query.ofPath?_append ha,
      Text.Percent.encodeBy_eq_self fun c hc => hkeep (hb c hc)]
  · have hnone := tail_append (w := []) fun c hc => hends (hs c hc) fun e => hquery (e ▸ hc)
    rw [List.append_nil] at hnone
    rw [hnone, Query.ofPath?_eq_none hquery]
    rfl

/-- A query of a text in front of a path takes the path into itself. -/
theorem tail_append_path_iff {y m s : List Char} (hm : ∀ c ∈ m, endsPath c = false)
    (hs : ∀ c ∈ s, Route.inPath c) :
    tail (y ++ (m ++ s)) = (Query.ofPath? s, none) ↔ ∀ c ∈ y, endsPath c = false := by
  refine ⟨fun h => ?_, fun hy => ?_⟩
  · have hmark : '#' ∉ y ++ (m ++ s) := fun hmem => tail_fragment hmem (by rw [h])
    have hquery : '?' ∉ y := by
      intro hmem
      obtain ⟨a, b, rfl, ha⟩ := List.eq_append_cons_of_mem hmem
      have hends : ∀ c ∈ a, endsPath c = false := fun c hc => endsPath_eq_false.2
        ⟨fun e => ha (e ▸ hc), fun e => hmark (e ▸ by simp [hc])⟩
      have hrest : '#' ∉ b ++ (m ++ s) := fun hc => hmark (by simp at hc ⊢; tauto)
      rw [List.append_assoc, List.cons_append, tail_query hends hrest] at h
      -- the query ends in the whole path, which is longer than a part of it
      have hs' := Text.Percent.encodeBy_eq_self fun c hc =>
        Route.forall_inPath (P := (inQuery true ·)) (by decide) (hs c hc)
      rw [← List.append_assoc, Text.Percent.encodeBy_append, hs'] at h
      have hpart := (Prod.mk.inj h).1
      by_cases hq : '?' ∈ s
      · obtain ⟨p, q, rfl, hp⟩ := List.eq_append_cons_of_mem hq
        rw [Query.ofPath?_append hp] at hpart
        have hlength := congrArg List.length (Option.some.inj hpart)
        simp only [List.length_append, List.length_cons] at hlength
        omega
      · rw [Query.ofPath?_eq_none hq] at hpart
        cases hpart
    exact fun c hc => endsPath_eq_false.2
      ⟨fun e => hquery (e ▸ hc), fun e => hmark (e ▸ List.mem_append_left _ hc)⟩
  · rw [tail_append hy, tail_append hm, Route.tail_path hs]

/-! ## Slashes at the end -/

theorem exists_trimSlashes (s : String) :
    ∃ k, s.toList = (Config.trimSlashes s).toList ++ List.replicate k '/' := by
  have hparts := List.takeWhile_append_dropWhile (p := (· = '/')) (l := s.toList.reverse)
  have hslash : s.toList.reverse.takeWhile (· = '/') =
      List.replicate (s.toList.reverse.takeWhile (· = '/')).length '/' :=
    List.eq_replicate_iff.2 ⟨rfl, fun c hc => by simpa using List.mem_takeWhile_imp hc⟩
  refine ⟨(s.toList.reverse.takeWhile (· = '/')).length, ?_⟩
  rw [Config.trimSlashes, String.toList_ofList, ← List.reverse_replicate, ← hslash,
    ← List.reverse_append, hparts, List.reverse_reverse]

/-- What stands in front of a character other than a slash is kept. -/
theorem append_slashes_eq {x f z : List Char} {d : Char} {k : Nat} (hd : d ≠ '/')
    (h : x ++ List.replicate k '/' = f ++ d :: z) :
    ∃ y, x = f ++ d :: y ∧ y ++ List.replicate k '/' = z := by
  rcases List.append_eq_append_iff.1 h with ⟨a, hf, ha⟩ | ⟨a, hx, ha⟩
  · have hmem : d ∈ List.replicate k '/' := by
      rw [ha]
      simp
    exact absurd (List.eq_of_mem_replicate hmem) hd
  · cases a with
    | nil =>
      have hmem : d ∈ List.replicate k '/' := by
        rw [List.nil_append] at ha
        rw [← ha]
        exact List.mem_cons_self
      exact absurd (List.eq_of_mem_replicate hmem) hd
    | cons e a =>
      obtain ⟨rfl, rfl⟩ := List.cons.inj ha
      exact ⟨a, hx, rfl⟩

theorem trimSlashes_subset {s : String} {c : Char} (h : c ∈ (Config.trimSlashes s).toList) :
    c ∈ s.toList := by
  obtain ⟨k, hk⟩ := exists_trimSlashes s
  rw [hk]
  exact List.mem_append_left _ h

/-! ## Bases -/

namespace Url

/-- The two URLs lead to the same server, as the same user. -/
structure SameServer (u v : Url) : Prop where
  scheme : v.scheme = u.scheme
  username : v.username = u.username
  password : v.password = u.password
  host : v.host = u.host
  port : v.port = u.port

/-- The text between the slashes after the scheme and the path, with the blanks that stand there. -/
def serverText (url : String) : List Char :=
  ((((unbroken url.toList).dropWhile (· ≠ ':')).drop 1).dropWhile (Path.isSeparator true)).takeWhile
    fun c => !endsAuthority true c

/-- A path may be put behind the text: it has no query and no fragment, and its authority does not
end in a blank. -/
structure IsBase (url : String) : Prop where
  query : '?' ∉ url.toList
  fragment : '#' ∉ url.toList
  blank : ∀ c ∈ (serverText url).getLast?, isEdge c = false

namespace Layout

variable {p : Layout} {url : String}

theorem Ok.serverText_eq (h : p.Ok) (hs : unbroken url.toList = p.text) :
    serverText url = p.front ++ if p.back = [] then p.trail else [] := by
  have hcolon : ∀ c ∈ p.lead ++ p.name, decide (c ≠ ':') = true := by
    intro c hc
    refine decide_eq_true ?_
    rcases List.mem_append.1 hc with hc | hc
    · exact forall_isEdge (P := (· ≠ ':')) (by decide) (h.lead c hc)
    · rintro rfl
      exact absurd (h.name.chars _ hc) (by decide)
  have htext : unbroken url.toList = (p.lead ++ p.name) ++
      ':' :: (p.slashes ++ (p.front ++ (p.back ++ p.trail))) := by
    rw [hs, Layout.text]
    simp only [List.append_assoc, List.cons_append]
  have hafter : ((unbroken url.toList).dropWhile (· ≠ ':')).drop 1 =
      p.slashes ++ (p.front ++ (p.back ++ p.trail)) := by
    rw [htext, List.dropWhile_append_of_pos hcolon]
    rfl
  rw [serverText, hafter, h.dropWhile_slashes]
  split
  · rename_i hback
    have hin := h.front.append (inAuthority_of_isEdge h.trail)
    rw [hback, List.nil_append]
    exact List.takeWhile_eq_self_iff.2 fun c hc => by rw [hin c hc]; rfl
  · rename_i hback
    rw [List.append_nil]
    refine takeWhile_authority h.front fun c hc => ?_
    rw [List.head?_append_of_ne_nil _ hback] at hc
    exact h.back c hc

end Layout

end Url

namespace Config

open Url

variable {toAscii : DomainToAscii} {c : Config} {q : Request} {r : Route} {path : String}

/-- A configuration that keeps its rules has the URL of a server on the web, and a mount that ends
no path. -/
theorem rules_of_validate (h : c.validate toAscii = .ok ()) :
    isMount c.mount ∧ isServerUrl toAscii c.url := by
  unfold validate faults at h
  cases hm : isMount c.mount <;> cases hu : isServerUrl toAscii c.url <;> simp [hm, hu] at h ⊢

theorem isMount_keeps {s : String} (h : isMount s) : ∀ d ∈ s.toList, endsPath d = false := by
  unfold isMount at h
  split at h
  · rename_i hs
    rw [hs]
    exact nofun
  · rename_i d rest hs
    rw [hs]
    simp only [Bool.and_eq_true, beq_iff_eq, Bool.not_eq_true', List.any_eq_false] at h
    intro e he
    rcases List.mem_cons.1 he with rfl | he
    · rw [h.1]
      rfl
    · exact Bool.eq_false_iff.2 (h.2 e he)

theorem parse_of_isServerUrl {s : String} (h : isServerUrl toAscii s) :
    ∃ u, parse toAscii s = .ok u ∧ SchemeKind.of u.scheme = .web := by
  unfold isServerUrl at h
  split at h
  · rename_i u hu
    refine ⟨u, hu, ?_⟩
    simp only [Bool.and_eq_true, Bool.or_eq_true, beq_iff_eq] at h
    rcases h.1 with h | h <;> rw [h] <;> decide
  · cases h

/-- What stands in the text of an endpoint behind the URL of the server. -/
def behind (c : Config) (path : String) : List Char :=
  unbroken (trimSlashes c.mount).toList ++ path.toList

theorem unbroken_endpointText (hpath : ∀ d ∈ path.toList, Route.inPath d) :
    unbroken (c.endpointText path).toList =
      unbroken (trimSlashes c.url).toList ++ c.behind path := by
  have hkeep : unbroken path.toList = path.toList := List.filter_eq_self.2 fun d hd =>
    Route.forall_inPath (P := fun d => !Path.isBreak d) (by decide) (hpath d hd)
  rw [endpointText, String.toList_append, String.toList_append, List.append_assoc, unbroken_append,
    unbroken_append, hkeep, behind]

section Endpoint

variable {p : Layout} {y : List Char}

theorem atEnd_behind (hm : isMount c.mount) (hpath : ∃ t, path.toList = '/' :: t) :
    AtEnd (c.behind path) := by
  obtain ⟨k, hk⟩ := exists_trimSlashes c.mount
  obtain ⟨t, ht⟩ := hpath
  unfold behind
  cases htrim : (trimSlashes c.mount).toList with
  | nil =>
    rw [ht]
    rintro d ⟨⟩
    rfl
  | cons d m =>
    rw [htrim] at hk
    have hd : d = '/' := by
      unfold isMount at hm
      rw [hk] at hm
      simp only [List.cons_append, Bool.and_eq_true, beq_iff_eq] at hm
      exact hm.1
    have hkeep : unbroken ('/' :: m) = '/' :: unbroken m := rfl
    rw [hd, hkeep]
    rintro d ⟨⟩
    rfl

theorem getLast?_behind_path (hpath : ∃ t, path.toList = '/' :: t)
    (hin : ∀ d ∈ path.toList, Route.inPath d) (x : List Char) :
    ∀ d ∈ (x ++ c.behind path).getLast?, isEdge d = false := by
  intro d hd
  obtain ⟨t, ht⟩ := hpath
  have hne : path.toList ≠ [] := by
    rw [ht]
    exact List.cons_ne_nil _ _
  rw [behind, ← List.append_assoc, List.getLast?_append_of_ne_nil _ hne] at hd
  exact Route.forall_inPath (P := (isEdge · = false)) (by decide) (hin d (List.mem_of_getLast? hd))

/-- The slashes that are taken from the URL of the server stand behind its authority. -/
theorem exists_base (h : p.Ok) (hs : unbroken c.url.toList = p.text) :
    ∃ y k, unbroken (trimSlashes c.url).toList =
        p.lead ++ (p.name ++ ':' :: (p.slashes ++ (p.front ++ y))) ∧
      y ++ List.replicate k '/' = p.back ++ p.trail := by
  obtain ⟨k, hk⟩ := exists_trimSlashes c.url
  have hslashes : unbroken (List.replicate k '/') = List.replicate k '/' :=
    List.filter_eq_self.2 fun d hd => by rw [List.eq_of_mem_replicate hd]; rfl
  rw [hk, unbroken_append, hslashes] at hs
  rcases List.eq_nil_or_concat' p.front with hfront | ⟨f, d, hfront⟩
  · exact absurd hfront h.front_ne
  · have hd : d ≠ '/' := by
      rintro rfl
      have hin := h.front '/' (by rw [hfront]; simp)
      cases hin
    have hparts : p.text = (p.lead ++ (p.name ++ ':' :: (p.slashes ++ f))) ++
        d :: (p.back ++ p.trail) := by
      simp [Layout.text, hfront]
    rw [hparts] at hs
    obtain ⟨y, hy, hyk⟩ := append_slashes_eq hd hs
    exact ⟨y, k, by simp [hy, hfront], hyk⟩

/-- With an end of the authority in front, the path of a request stands behind it. -/
theorem parse_endpoint (h : p.Ok) (hy : unbroken (trimSlashes c.url).toList =
      p.lead ++ (p.name ++ ':' :: (p.slashes ++ (p.front ++ y)))) (hend : AtEnd y)
    (hm : isMount c.mount) (hpath : ∃ t, path.toList = '/' :: t)
    (hin : ∀ d ∈ path.toList, Route.inPath d) :
    parse toAscii (c.endpointText path) = (readAuthority toAscii true p.scheme p.front).map fun u =>
      withTail u true (pathAfterAuthority true) (y ++ c.behind path) := by
  refine h.parse_of_end h.front h.front_ne (hend.append (atEnd_behind hm hpath)) ?_ ?_
  · rw [← List.append_assoc]
    exact getLast?_behind_path hpath hin _
  · rw [unbroken_endpointText hin, hy]
    simp only [List.append_assoc, List.cons_append]

/-- A blank behind the authority gets into it. -/
theorem parse_endpoint_blank (h : p.Ok) (hy : unbroken (trimSlashes c.url).toList =
      p.lead ++ (p.name ++ ':' :: (p.slashes ++ (p.front ++ p.trail)))) (hne : p.trail ≠ [])
    (hm : isMount c.mount) (hpath : ∃ t, path.toList = '/' :: t)
    (hin : ∀ d ∈ path.toList, Route.inPath d) (v : Url) :
    parse toAscii (c.endpointText path) ≠ .ok v := by
  have hfront := h.front.append (inAuthority_of_isEdge h.trail)
  have htext : unbroken (c.endpointText path).toList = p.lead ++ (p.name ++
      ':' :: (p.slashes ++ ((p.front ++ p.trail) ++ c.behind path))) := by
    rw [unbroken_endpointText hin, hy]
    simp only [List.append_assoc, List.cons_append]
  rw [h.parse_of_end hfront (List.append_ne_nil_of_left_ne_nil h.front_ne _)
    (atEnd_behind hm hpath) (getLast?_behind_path hpath hin _) htext]
  intro hv
  obtain ⟨u, hu, -⟩ := map_eq_ok.1 hv
  have hlast := List.getLast?_eq_some_getLast hne
  refine readAuthority_blank hfront (h.trail _ (List.getLast_mem hne)) ?_ u hu
  rw [List.getLast?_append_of_ne_nil _ hne, hlast]

/-- No mark of a query or a fragment stands in front of the end of the authority. -/
theorem not_mem_front {d : Char} (h : p.Ok) (hd : d = '?' ∨ d = '#') :
    d ∉ p.lead ++ (p.name ++ ':' :: (p.slashes ++ p.front)) := by
  have hcolon : d ≠ ':' := by rcases hd with rfl | rfl <;> decide
  simp only [List.mem_append, List.mem_cons, not_or]
  refine ⟨fun hmem => ?_, fun hmem => ?_, hcolon, fun hmem => ?_, fun hmem => ?_⟩
  · have hedge := h.lead d hmem
    rcases hd with rfl | rfl <;> cases hedge
  · have hchar := h.name.chars d hmem
    rcases hd with rfl | rfl <;> cases hchar
  · have hsep := h.slashes d hmem
    rcases hd with rfl | rfl <;> cases hsep
  · have hin := h.front d hmem
    rcases hd with rfl | rfl <;> cases hin

/-- The mark of a query or a fragment in the URL of the server stands behind its authority. -/
theorem mem_url_iff {k : Nat} {d : Char} (h : p.Ok) (hs : unbroken c.url.toList = p.text)
    (hyk : y ++ List.replicate k '/' = p.back ++ p.trail) (hd : d = '?' ∨ d = '#') :
    d ∈ c.url.toList ↔ d ∈ y := by
  have hkept : d ∈ c.url.toList ↔ d ∈ unbroken c.url.toList := by
    have hbreak : (!Path.isBreak d) = true := by rcases hd with rfl | rfl <;> rfl
    rw [unbroken, List.mem_filter, hbreak]
    exact (and_iff_left rfl).symm
  have hslash : d ∉ List.replicate k '/' := fun hmem => by
    have hsame := List.eq_of_mem_replicate hmem
    rcases hd with rfl | rfl <;> cases hsame
  have hbehind : d ∈ y ↔ d ∈ p.back ++ p.trail := by
    rw [← hyk, List.mem_append, or_iff_left hslash]
  have htext : p.text = (p.lead ++ (p.name ++ ':' :: (p.slashes ++ p.front))) ++
      (p.back ++ p.trail) := by
    simp only [Layout.text, List.append_assoc, List.cons_append]
  rw [hkept, hs, hbehind, htext, List.mem_append, or_iff_right (not_mem_front h hd)]

/-- Unless blanks follow the authority at once, what is left behind it begins where it ends. -/
theorem atEnd_base {k : Nat} (h : p.Ok) (hyk : y ++ List.replicate k '/' = p.back ++ p.trail)
    (hblank : p.back = [] → p.trail = []) : AtEnd y := by
  intro d hd
  cases y with
  | nil => cases hd
  | cons e y =>
    cases hback : p.back with
    | nil =>
      rw [hback, hblank hback] at hyk
      cases hyk
    | cons f b =>
      rw [hback] at hyk
      have hbegin := h.back f (by rw [hback]; rfl)
      rw [← (List.cons.inj hyk).1] at hbegin
      exact Option.some.inj hd ▸ hbegin

/-- Blanks that follow the authority at once are all that is left behind it. -/
theorem base_eq_trail {k : Nat} (h : p.Ok) (hyk : y ++ List.replicate k '/' = p.trail) :
    y = p.trail := by
  cases k with
  | zero => simpa using hyk
  | succ k =>
    have hslash : '/' ∈ p.trail := by
      rw [← hyk, List.replicate_succ]
      simp
    cases h.trail _ hslash

/-- The marks of a query and a fragment are looked for in what is left behind the authority. -/
theorem isBase_iff {k : Nat} {u : Url} (h : p.Ok) (hs : unbroken c.url.toList = p.text)
    (hyk : y ++ List.replicate k '/' = p.back ++ p.trail) (hblank : p.back = [] → p.trail = [])
    (hu : readAuthority toAscii true p.scheme p.front = .ok u) :
    IsBase c.url ↔ ∀ d ∈ y, endsPath d = false := by
  refine ⟨fun hbase d hd => endsPath_eq_false.2 ⟨?_, ?_⟩, fun hy => ⟨?_, ?_, ?_⟩⟩
  · rintro rfl
    exact hbase.query ((mem_url_iff h hs hyk (.inl rfl)).2 hd)
  · rintro rfl
    exact hbase.fragment ((mem_url_iff h hs hyk (.inr rfl)).2 hd)
  · intro hmem
    cases hy '?' ((mem_url_iff h hs hyk (.inl rfl)).1 hmem)
  · intro hmem
    cases hy '#' ((mem_url_iff h hs hyk (.inr rfl)).1 hmem)
  · have hserver : serverText c.url = p.front := by
      rw [h.serverText_eq hs]
      split
      · rename_i hback
        rw [hblank hback, List.append_nil]
      · exact List.append_nil _
    intro d hd
    rw [hserver] at hd
    cases hedge : isEdge d with
    | false => rfl
    | true => exact absurd hu (readAuthority_blank h.front hedge hd u)

/-- With blanks at its end, the URL of a server alone is no base. -/
theorem not_isBase_of_blank (h : p.Ok) (hs : unbroken c.url.toList = p.text)
    (hback : p.back = []) (hne : p.trail ≠ []) : ¬ IsBase c.url := by
  intro hbase
  have hserver : serverText c.url = p.front ++ p.trail := by
    rw [h.serverText_eq hs, if_pos hback]
  have hlast : p.trail.getLast hne ∈ (serverText c.url).getLast? := by
    rw [hserver, List.getLast?_append_of_ne_nil _ hne, List.getLast?_eq_some_getLast hne]
    rfl
  have hedge := hbase.blank _ hlast
  rw [h.trail _ (List.getLast_mem hne)] at hedge
  cases hedge

end Endpoint

/-- A request with this path is sent to the server of the configuration's URL, with the query of
the path and nothing else. -/
def Keeps (toAscii : DomainToAscii) (c : Config) (q : Request) (path : String) : Prop :=
  ∃ u v, parse toAscii c.url = .ok u ∧ c.endpoint toAscii q = .ok v ∧ SameServer u v ∧
    v.fragment = none ∧ v.query = Query.ofPath? path.toList

theorem endpoint_eq_ok (hp : q.path = .ok path) {v : Url} :
    c.endpoint toAscii q = .ok v ↔ parse toAscii (c.endpointText path) = .ok v := by
  rw [endpoint, hp, ok_bind, mapError_eq_ok]

/-- With one server behind both texts, only query and fragment are left to be compared. -/
theorem keeps_iff_tail {u : Url} {pathOf : List Char → Path} {s t : List Char}
    (hp : q.path = .ok path) (hu : parse toAscii c.url = .ok (withTail u true pathOf s))
    (hv : parse toAscii (c.endpointText path) = .ok (withTail u true pathOf t)) :
    c.Keeps toAscii q path ↔ tail t = (Query.ofPath? path.toList, none) := by
  have hv := (endpoint_eq_ok hp).2 hv
  refine ⟨?_, fun h => ?_⟩
  · rintro ⟨u', v, -, hv', -, hfragment, hquery⟩
    rw [hv] at hv'
    obtain rfl := Except.ok.inj hv'
    exact Prod.ext hquery hfragment
  · exact ⟨_, _, hu, hv, ⟨rfl, rfl, rfl, rfl, rfl⟩, congrArg Prod.snd h, congrArg Prod.fst h⟩

/-- **A configuration that keeps its rules sends the requests to all routes to its own server, with
the query of their path, exactly if its URL is a base.** -/
theorem endpoint_keeps_iff (hc : c.validate toAscii = .ok ()) (hr : q.template = r.template)
    (hp : q.path = .ok path) : c.Keeps toAscii q path ↔ IsBase c.url := by
  obtain ⟨hm, hurl⟩ := rules_of_validate hc
  obtain ⟨u, hu, hweb⟩ := parse_of_isServerUrl hurl
  obtain ⟨p, h, hs, -⟩ := exists_layout hu hweb
  obtain ⟨y, k, hy, hyk⟩ := exists_base h hs
  have hshape := hp
  rw [Request.path, hr] at hshape
  obtain ⟨hpath, hin⟩ := Route.path_shape hshape
  by_cases hblank : p.back = [] → p.trail = []
  · obtain ⟨u₀, hu₀, rfl⟩ := map_eq_ok.1 ((h.parse_eq hs).symm.trans hu)
    have hend : parse toAscii (c.endpointText path) =
        .ok (withTail u₀ true (pathAfterAuthority true) (y ++ c.behind path)) := by
      rw [parse_endpoint h hy (atEnd_base h hyk hblank) hm hpath hin, hu₀, map_ok]
    have hmount : ∀ d ∈ unbroken (trimSlashes c.mount).toList, endsPath d = false := fun d hd =>
      isMount_keeps hm d (trimSlashes_subset (mem_of_mem_unbroken hd))
    rw [keeps_iff_tail hp hu hend, behind, tail_append_path_iff hmount hin,
      isBase_iff h hs hyk hblank hu₀]
  · -- the blanks at the end get into the authority
    obtain ⟨hback, hne⟩ := Classical.not_imp.1 hblank
    rw [hback, List.nil_append] at hyk
    obtain rfl := base_eq_trail h hyk
    refine iff_of_false ?_ (not_isBase_of_blank h hs hback hne)
    rintro ⟨u', v, -, hv, -⟩
    exact parse_endpoint_blank h hy hne hm hpath hin v ((endpoint_eq_ok hp).1 hv)

/-- Knows one name with an umlaut besides the names that are ASCII. -/
def withUmlaut : DomainToAscii where
  name? bytes :=
    if bytes = "bücher.example".toList.flatMap String.utf8EncodeChar then
      some "xn--bcher-kva.example".toList
    else DomainToAscii.ascii.name? bytes
  keeps h hb hle := by
    split at h
    · rename_i hbytes
      have hno : ("bücher.example".toList.flatMap String.utf8EncodeChar).all (0x20 < ·.toNat) := rfl
      exact absurd (of_decide_eq_true (List.all_eq_true.1 hno _ (hbytes ▸ hb))) (Nat.not_lt.2 hle)
    · exact DomainToAscii.ascii.keeps h hb hle
  allowed h c hc := by
    split at h
    · have hno : "xn--bcher-kva.example".toList.all (!Host.isForbiddenInName ·) := rfl
      simpa using List.all_eq_true.1 hno c (Option.some.inj h ▸ hc)
    · exact DomainToAscii.ascii.allowed h c hc

/-- A base with a user, an international name, a port, slashes and blanks in front, behind a
proxy. -/
theorem endpoint_keeps_proxy :
    (⟨" https:/user:pw@bücher.example:8844/a//", "/proxy/"⟩ : Config).validate withUmlaut = .ok () ∧
      (Request.on .get .dataByName ["/a b?"]).template = Route.dataByName.template ∧
      (Request.on .get .dataByName ["/a b?"]).path = .ok "/api/v1/data?name=%2Fa%20b%3F" ∧
      (⟨" https:/user:pw@bücher.example:8844/a//", "/proxy/"⟩ : Config).Keeps withUmlaut
        (.on .get .dataByName ["/a b?"]) "/api/v1/data?name=%2Fa%20b%3F" := by
  have hvalid : (⟨" https:/user:pw@bücher.example:8844/a//", "/proxy/"⟩ : Config).validate
      withUmlaut = .ok () := by rfl
  have hpath : (Request.on .get .dataByName ["/a b?"]).path =
      .ok "/api/v1/data?name=%2Fa%20b%3F" := by rfl
  have hserver : serverText " https:/user:pw@bücher.example:8844/a//" =
      "user:pw@bücher.example:8844".toList := by
    decide +kernel
  have hblank : ∀ d ∈ "user:pw@bücher.example:8844".toList.getLast?, isEdge d = false := by
    rintro d ⟨⟩
    rfl
  exact ⟨hvalid, rfl, hpath, (endpoint_keeps_iff (r := .dataByName) hvalid rfl hpath).2
    ⟨by decide, by decide, by rwa [hserver]⟩⟩

/-- The rules let a query pass, which takes the path of a request into itself, and a blank at the
end, which gets into the host. -/
theorem rules_pass_no_base :
    ((⟨"https://credhub.example.com:8844/?zone=a", ""⟩ : Config).validate .ascii = .ok () ∧
      (Request.on .get .dataById ["abc"]).path = .ok "/api/v1/data/abc" ∧
      ¬ (⟨"https://credhub.example.com:8844/?zone=a", ""⟩ : Config).Keeps .ascii
        (.on .get .dataById ["abc"]) "/api/v1/data/abc") ∧
    (⟨"https://credhub.example.com:8844 ", ""⟩ : Config).validate .ascii = .ok () ∧
      ¬ (⟨"https://credhub.example.com:8844 ", ""⟩ : Config).Keeps .ascii
        (.on .get .dataById ["abc"]) "/api/v1/data/abc" := by
  refine ⟨⟨rfl, rfl, ?_⟩, rfl, ?_⟩
  · rintro ⟨u, v, -, hv, -, -, hquery⟩
    have htaken : ((⟨"https://credhub.example.com:8844/?zone=a", ""⟩ : Config).endpoint .ascii
        (.on .get .dataById ["abc"])).toOption.bind Url.query =
          some "zone=a/api/v1/data/abc".toList := by
      decide +kernel
    rw [hv] at htaken
    cases hquery.symm.trans htaken
  · rintro ⟨u, v, -, hv, -⟩
    have hrefused : ((⟨"https://credhub.example.com:8844 ", ""⟩ : Config).endpoint .ascii
        (.on .get .dataById ["abc"])).toOption = none := by
      decide +kernel
    rw [hv] at hrefused
    cases hrefused

end Config

end CredStore
