import CredStore.Proofs.Client.Arguments
import CredStore.Proofs.Config.Endpoint
import CredStore.Proofs.Url.Path

/-!
# Identifiers in the URLs of requests

An identifier is a segment of a path. With a configuration that is a server and nothing else, the
URL of a request has the path of its template, with the encoded identifier in the place of the
placeholder, unless the identifier is `.` or `..` (`identifier_names_iff`): these are left as they
are by encoding, and are levels of a path for the reader of URLs.
-/

namespace CredStore

open Url Url.Path
open Text.Percent (encodeComponent)

namespace Config

/-- The configuration is a scheme, a host and possibly a port, and nothing else. -/
structure IsBare (toAscii : DomainToAscii) (c : Config) : Prop where
  valid : c.validate toAscii = .ok ()
  mount : c.mount = ""
  url : ∃ name server, c.url.toList = name ++ "://".toList ++ server ∧
    (name.map Char.toLower = "http".toList ∨ name.map Char.toLower = "https".toList) ∧
    server ≠ [] ∧ ∀ d ∈ server, endsAuthority true d = false ∧ isEdge d = false

variable {toAscii : DomainToAscii} {c : Config} {path : String}

theorem isAlpha_or_toLower_eq (d : Char) : d.isAlpha ∨ d.toLower = d := by
  unfold Char.toLower
  split
  · rename_i hupper
    left
    have hisUpper : d.isUpper := decide_eq_true hupper
    exact Bool.or_eq_true_iff.2 (.inl hisUpper)
  · exact .inr rfl

/-- A word that becomes a scheme in lower case is one. -/
theorem isScheme_of_toLower {name : List Char} (h : IsScheme (name.map Char.toLower)) :
    IsScheme name := by
  refine ⟨fun d hd => ?_, ?_⟩
  · rcases isAlpha_or_toLower_eq d with halpha | hsame
    · simp [inScheme, Char.isAlphanum, halpha]
    · rw [← hsame]
      exact h.chars _ (List.mem_map_of_mem hd)
  · obtain ⟨e, he, halpha⟩ := h.head
    rw [List.head?_map, Option.mem_def, Option.map_eq_some_iff] at he
    obtain ⟨d, hd, rfl⟩ := he
    refine ⟨d, hd, ?_⟩
    rcases isAlpha_or_toLower_eq d with halpha' | hsame
    · exact halpha'
    · rwa [hsame] at halpha

theorem isScheme_http : IsScheme "http".toList :=
  ⟨List.all_eq_true.1 rfl, 'h', rfl, rfl⟩

theorem isScheme_https : IsScheme "https".toList :=
  ⟨List.all_eq_true.1 rfl, 'h', rfl, rfl⟩

/-- The text of a bare configuration is laid out as it is. -/
theorem IsBare.exists_layout (hc : c.IsBare toAscii) : ∃ p : Layout, p.Ok ∧
    unbroken c.url.toList = p.text ∧ p.back = [] ∧ p.trail = [] := by
  obtain ⟨name, server, hurl, hscheme, hne, hserver⟩ := hc.url
  have hlower : IsScheme (name.map Char.toLower) := by
    rcases hscheme with h | h <;> rw [h]
    · exact isScheme_http
    · exact isScheme_https
  have hname := isScheme_of_toLower hlower
  have hweb : SchemeKind.of (name.map Char.toLower) = .web := by
    rcases hscheme with h | h <;> rw [h] <;> decide
  have hslashes : ∀ d ∈ ['/', '/'], isSeparator true d := List.all_eq_true.1 rfl
  have hwhole : unbroken c.url.toList = c.url.toList := by
    refine List.filter_eq_self.2 fun d hd => ?_
    rw [hurl] at hd
    simp only [List.mem_append] at hd
    rcases hd with (hd | hd) | hd
    · exact keep_of_isEdge_eq (hname.isEdge_eq hd)
    · have hmarks : ∀ d ∈ "://".toList, (!Path.isBreak d) = true := List.all_eq_true.1 rfl
      exact hmarks d hd
    · exact keep_of_isEdge_eq (hserver d hd).2
  refine ⟨⟨[], name, ['/', '/'], server, [], []⟩, ⟨nofun, hname, hweb, hslashes,
    fun d hd => (hserver d hd).1, hne, nofun, fun d hd => ?_, nofun⟩, ?_, rfl, rfl⟩
  · rw [List.append_nil] at hd
    exact (hserver d (List.mem_of_getLast? hd)).2
  · rw [hwhole, hurl]
    simp [Layout.text]

/-- What a bare configuration puts in front of a path is the server. -/
theorem IsBare.parse_endpoint (hc : c.IsBare toAscii) : ∃ u, ∀ path : String,
    (∃ t, path.toList = '/' :: t) → (∀ d ∈ path.toList, Route.inPath d) →
      parse toAscii (c.endpointText path) =
        .ok (withTail u true (pathAfterAuthority true) path.toList) := by
  obtain ⟨hm, hurl⟩ := rules_of_validate hc.valid
  obtain ⟨u, hu, -⟩ := parse_of_isServerUrl hurl
  obtain ⟨p, h, hs, hback, htrail⟩ := hc.exists_layout
  obtain ⟨y, k, hy, hyk⟩ := exists_base h hs
  rw [hback, htrail, List.append_nil, List.append_eq_nil_iff] at hyk
  rw [hyk.1] at hy
  obtain ⟨u₀, hu₀, -⟩ := map_eq_ok.1 ((h.parse_eq hs).symm.trans hu)
  refine ⟨u₀, fun path hpath hin => ?_⟩
  have hbehind : c.behind path = path.toList := by
    rw [behind, hc.mount]
    rfl
  rw [Config.parse_endpoint h hy atEnd_nil hm hpath hin, hu₀, hbehind, map_ok, List.nil_append]

/-! ## Requests with an identifier -/

/-- The URL of a request has the path of its template, with the encoded identifier in the place of
the placeholder. -/
def Names (toAscii : DomainToAscii) (c : Config) (q : Request) (id : String) : Prop :=
  ∃ u before name after, c.endpoint toAscii q = .ok u ∧
    Template.pieces q.template = [.literal before, .placeholder name, .literal after] ∧
      u.path.text = before ++ (encodeComponent id).toList ++ after

/-- A text of plain segments is its own path. -/
theorem takeWhile_path {ss : List (List Char)} (hss : ∀ s ∈ ss, IsPlain s) :
    (text (.segments ss)).takeWhile (fun d => !endsPath d) = text (.segments ss) := by
  refine List.takeWhile_eq_self_iff.2 fun d hd => ?_
  obtain ⟨s, hs, hds⟩ := List.mem_flatMap.1 hd
  rcases List.mem_cons.1 hds with rfl | hds
  · rfl
  · have hin := (hss s hs d hds).1
    cases hends : endsPath d with
    | false => rfl
    | true =>
      simp only [endsPath, Bool.or_eq_true, beq_iff_eq] at hends
      rcases hends with rfl | rfl <;> cases hin

variable {m : Method} {r : Route} {body : Option Json}

/-- The template of the route holds one placeholder, which is a segment of its own between the given
ones. -/
structure Identifies (r : Route) (pre post : List String) (name : List Char) : Prop where
  pieces : Template.pieces r.template =
    [.literal (text (.segments (pre.map String.toList)) ++ ['/']), .placeholder name,
      .literal (text (.segments (post.map String.toList)))]
  plain : ∀ s ∈ pre ++ post, IsPlain s.toList
  undotted : ∀ s ∈ pre ++ post, isDotted s.toList = false

/-- The segments of the path of a request with an identifier. -/
def segmentsWith (pre post : List String) (id : String) : List (List Char) :=
  pre.map String.toList ++ (encodeComponent id).toList :: post.map String.toList

theorem text_segmentsWith (pre post : List String) (id : String) :
    text (.segments (segmentsWith pre post id)) =
      text (.segments (pre.map String.toList)) ++ ['/'] ++ (encodeComponent id).toList ++
        text (.segments (post.map String.toList)) := by
  rw [segmentsWith, text_append, text_cons]
  simp only [List.append_assoc, List.cons_append, List.nil_append]

/-- What holds of the encoded identifier and of the segments around it holds of each segment. -/
theorem forall_segmentsWith {P : List Char → Prop} {pre post : List String}
    (h : ∀ s ∈ pre ++ post, P s.toList) {id : String} :
    (∀ s ∈ segmentsWith pre post id, P s) ↔ P (encodeComponent id).toList := by
  refine ⟨fun hall => hall _ (by simp [segmentsWith]), fun hid => ?_⟩
  simp only [segmentsWith, List.mem_append, List.mem_cons, List.mem_map]
  rintro _ (⟨s, hs, rfl⟩ | rfl | ⟨s, hs, rfl⟩)
  · exact h s (List.mem_append_left _ hs)
  · exact hid
  · exact h s (List.mem_append_right _ hs)

namespace Identifies

variable {pre post : List String} {name : List Char}

theorem fills (h : Identifies r pre post name) (id : String) :
    Template.Fills (Template.pieces r.template) [id]
      (text (.segments (segmentsWith pre post id))) := by
  have hfills := Template.Fills.literal (text (.segments (pre.map String.toList)) ++ ['/'])
    (.placeholder name id (.literal (text (.segments (post.map String.toList))) .nil))
  rw [List.append_nil, ← List.append_assoc, ← text_segmentsWith, ← h.pieces] at hfills
  exact hfills

theorem isPlain (h : Identifies r pre post name) (id : String) :
    ∀ s ∈ segmentsWith pre post id, IsPlain s :=
  (forall_segmentsWith h.plain).2 (isPlain_encodeComponent id)

theorem undotted_iff (h : Identifies r pre post name) (id : String) :
    (∀ s ∈ segmentsWith pre post id, isDotted s = false) ↔ id ≠ "." ∧ id ≠ ".." := by
  rw [forall_segmentsWith (P := (isDotted · = false)) h.undotted, ← not_or,
    ← isDotted_encodeComponent, Bool.not_eq_true]

end Identifies

/-- The URL of a request with an identifier is read from its segments. -/
theorem IsBare.exists_endpoint (hc : c.IsBare toAscii) {pre post : List String} {name : List Char}
    (h : Identifies r pre post name) (id : String) (m : Method) (body : Option Json) :
    ∃ u, c.endpoint toAscii (.on m r [id] body) = .ok u ∧
      u.path = pathAfterAuthority true (text (.segments (segmentsWith pre post id))) := by
  obtain ⟨u, hu⟩ := hc.parse_endpoint
  have hpath : (Request.on m r [id] body).path =
      .ok (String.ofList (text (.segments (segmentsWith pre post id)))) :=
    Client.path_of_fills (h.fills id)
  have hshape := Route.path_shape hpath
  refine ⟨_, (endpoint_eq_ok hpath).2 (hu _ hshape.1 hshape.2), ?_⟩
  rw [String.toList_ofList]
  exact congrArg (pathAfterAuthority true) (takeWhile_path (h.isPlain id))

/-- An identifier is a segment of the path, and stays one unless it is dotted. -/
theorem IsBare.names_iff (hc : c.IsBare toAscii) {pre post : List String} {name : List Char}
    (h : Identifies r pre post name) (id : String) :
    (∃ u, c.endpoint toAscii (.on m r [id] body) = .ok u) ∧
      (c.Names toAscii (.on m r [id] body) id ↔ id ≠ "." ∧ id ≠ "..") := by
  obtain ⟨u, hu, hpath⟩ := hc.exists_endpoint h id m body
  have hne : segmentsWith pre post id ≠ [] := by simp [segmentsWith]
  refine ⟨⟨u, hu⟩, ?_⟩
  rw [← h.undotted_iff id, ← text_pathAfterAuthority_iff hne (h.isPlain id), ← hpath,
    text_segmentsWith]
  constructor
  · rintro ⟨v, before, name', after, hv, hpieces, hvtext⟩
    rw [hu] at hv
    obtain rfl := Except.ok.inj hv
    have hsame := h.pieces.symm.trans hpieces
    simp only [List.cons.injEq, Template.Piece.literal.injEq, and_true] at hsame
    rw [← hsame.1, ← hsame.2.2] at hvtext
    exact hvtext
  · exact fun htext => ⟨u, _, _, _, hu, h.pieces, htext⟩

/-! ## Calls with an identifier -/

/-- A call with an identifier sends it to a route that it identifies something on. -/
theorem exists_identifies {β : Type} (x : Client.Call β) {id : String}
    (hid : x.identifier? = some id) : ∃ m r body pre post name,
      x.request? = some (.on m r [id] body) ∧ Identifies r pre post name := by
  have hdata : Identifies .dataById ["api", "v1", "data"] [] "id".toList :=
    ⟨rfl, by decide, by decide⟩
  have hpermission : Identifies .permissionsV2ById ["api", "v2", "permissions"] [] "uuid".toList :=
    ⟨rfl, by decide, by decide⟩
  have hregenerate : Identifies .certificateRegenerate ["api", "v1", "certificates"]
      ["regenerate"] "id".toList := ⟨rfl, by decide, by decide⟩
  have htransitional : Identifies .certificateTransitionalVersion ["api", "v1", "certificates"]
      ["update_transitional_version"] "id".toList := ⟨rfl, by decide, by decide⟩
  cases x <;> cases hid
  case getById id => exact ⟨_, _, _, _, _, _, rfl, hdata⟩
  case permission uuid => exact ⟨_, _, _, _, _, _, rfl, hpermission⟩
  case updatePermission uuid p => exact ⟨_, _, _, _, _, _, rfl, hpermission⟩
  case deletePermission uuid => exact ⟨_, _, _, _, _, _, rfl, hpermission⟩
  case regenerateCertificate id t => exact ⟨_, _, _, _, _, _, rfl, hregenerate⟩
  case setTransitional id mark => exact ⟨_, _, _, _, _, _, rfl, htransitional⟩

/-- On one route, URLs that name different identifiers differ. -/
theorem Names.inj {q q' : Request} {id id' : String} (h : c.Names toAscii q id)
    (h' : c.Names toAscii q' id') (htemplate : q'.template = q.template)
    (hsame : c.endpoint toAscii q' = c.endpoint toAscii q) : id' = id := by
  obtain ⟨u, before, name, after, hu, hpieces, htext⟩ := h
  obtain ⟨u', before', name', after', hu', hpieces', htext'⟩ := h'
  rw [hsame, hu] at hu'
  obtain rfl := Except.ok.inj hu'
  rw [htemplate, hpieces] at hpieces'
  simp only [List.cons.injEq, Template.Piece.literal.injEq, and_true] at hpieces'
  obtain ⟨rfl, -, rfl⟩ := hpieces'
  rw [htext] at htext'
  have hencoded := List.append_cancel_left (List.append_cancel_right htext')
  exact (Text.Percent.encodeComponent_inj.1 (String.toList_inj.1 hencoded)).symm

open Client in
/-- **No identifier but `.` and `..` leads to another route.** With a configuration that is a server
and nothing else, the URL of a call has the path of its template, with the encoded identifier in the
place of the placeholder, exactly if the identifier is neither of the two; and different other
identifiers have different URLs on the same route. -/
theorem identifier_names_iff (hc : c.IsBare toAscii) {β : Type} (x : Call β) {id : String}
    (hid : x.identifier? = some id) :
    ∃ q, x.request? = some q ∧ (∃ u, c.endpoint toAscii q = .ok u) ∧
      (c.Names toAscii q id ↔ id ≠ "." ∧ id ≠ "..") ∧
      ∀ (γ : Type) (y : Call γ) (id' : String) (q' : Request), y.identifier? = some id' →
        y.request? = some q' → q'.template = q.template → c.Names toAscii q id →
          id' ≠ "." → id' ≠ ".." → c.endpoint toAscii q' = c.endpoint toAscii q → id' = id := by
  obtain ⟨m, r, body, pre, post, name, hq, h⟩ := exists_identifies x hid
  obtain ⟨hok, hnames⟩ := hc.names_iff (m := m) h id
  refine ⟨_, hq, hok, hnames, fun γ y id' q' hid' hq' htemplate hnamed hone htwo hsame => ?_⟩
  obtain ⟨m', r', body', pre', post', name', hq'', h'⟩ := exists_identifies y hid'
  rw [hq'] at hq''
  obtain rfl := Option.some.inj hq''
  exact hnamed.inj ((hc.names_iff h' id').2.2 ⟨hone, htwo⟩) htemplate hsame

theorem isBare_https : (⟨"https://credhub.example.com:8844", ""⟩ : Config).IsBare .ascii := by
  have hall : "credhub.example.com:8844".toList.all fun d => !endsAuthority true d && !isEdge d :=
    rfl
  refine ⟨rfl, rfl, "https".toList, "credhub.example.com:8844".toList, rfl, .inr rfl, by decide,
    fun d hd => ?_⟩
  simpa using List.all_eq_true.1 hall d hd

/-- An identifier that looks like a way to another route stays where it is. -/
theorem names_traversal :
    (⟨"https://credhub.example.com:8844", ""⟩ : Config).IsBare .ascii ∧
      (Client.Call.deletePermission ⟨"../data?name=%2e%2e"⟩).identifier? =
        some "../data?name=%2e%2e" ∧
      ∃ q, (Client.Call.deletePermission ⟨"../data?name=%2e%2e"⟩).request? = some q ∧
        (⟨"https://credhub.example.com:8844", ""⟩ : Config).Names .ascii q
          "../data?name=%2e%2e" := by
  obtain ⟨q, hq, -, hnames, -⟩ :=
    identifier_names_iff isBare_https (.deletePermission ⟨"../data?name=%2e%2e"⟩) rfl
  exact ⟨isBare_https, rfl, q, hq, hnames.2 ⟨by decide, by decide⟩⟩

/-- To regenerate the certificate with the identifier `..` is to send its request to the route that
regenerates credentials. -/
theorem dotted_leaves_route :
    (⟨"https://credhub.example.com:8844", ""⟩ : Config).IsBare .ascii ∧
      ∃ q u, (Client.Call.regenerateCertificate ⟨".."⟩ none).request? = some q ∧
        (⟨"https://credhub.example.com:8844", ""⟩ : Config).endpoint .ascii q = .ok u ∧
        u.path.text = Route.regenerate.template.toList ∧
        ¬ (⟨"https://credhub.example.com:8844", ""⟩ : Config).Names .ascii q ".." := by
  have hpath : ((⟨"https://credhub.example.com:8844", ""⟩ : Config).endpoint .ascii
      (.on .post .certificateRegenerate [".."])).toOption.map (·.path.text) =
        some Route.regenerate.template.toList := by
    decide +kernel
  cases hend : (⟨"https://credhub.example.com:8844", ""⟩ : Config).endpoint .ascii
      (.on .post .certificateRegenerate [".."]) with
  | error e =>
    rw [hend] at hpath
    cases hpath
  | ok u =>
    rw [hend] at hpath
    have htext : u.path.text = Route.regenerate.template.toList := Option.some.inj hpath
    refine ⟨isBare_https, _, u, rfl, hend, htext, ?_⟩
    rintro ⟨v, before, name, after, hv, hpieces, hnamed⟩
    have hreal : Template.pieces Route.certificateRegenerate.template =
        [.literal "/api/v1/certificates/".toList, .placeholder "id".toList,
          .literal "/regenerate".toList] := rfl
    have hsame := hreal.symm.trans hpieces
    simp only [List.cons.injEq, Template.Piece.literal.injEq, and_true] at hsame
    obtain rfl := Except.ok.inj (hend.symm.trans hv)
    rw [htext, ← hsame.1, ← hsame.2.2] at hnamed
    exact absurd hnamed (by decide)

end Config

end CredStore
