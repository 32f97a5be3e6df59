import CredStore.Proofs.Client.Transcript
import CredStore.Proofs.Request.Fill
import CredStore.Proofs.Request.Query

/-!
# What a call says to the server

A call has parameters (`Call.parameters`) or an identifier (`Call.identifier?`), or says all it has
to say in its body. Whatever the arguments of a call hold, delimiters of paths and queries and
braces included, the path of its request reads back to them, and to nothing else
(`delivers_arguments`).
-/

namespace CredStore.Client

variable {β : Type}

open Text.Percent (decode? encodeComponent)

namespace Call

/-- The parameters of a call, with their names on the server. -/
def parameters : {β : Type} → Call β → List (String × String)
  | _, @getByName _ _ name => [("name", name.path), ("current", "true")]
  | _, @history _ _ name versions => [("name", name.path), ("versions", toString versions)]
  | _, .findByName text => [("name-like", text)]
  | _, .findByPath path => [("path", path)]
  | _, .allPaths => [("paths", "true")]
  | _, .deleteByName name => [("name", name.path)]
  | _, .batchPermissions name => [("credential_name", name.path)]
  | _, .deleteFromBatch name actor => [("credential_name", name.path), ("actor", actor.encode)]
  | _, .findPermission path actor => [("path", path), ("actor", actor.encode)]
  | _, .certificateByName name => [("name", name.path)]
  | _, _ => []

/-- The identifier of what a call is about, if it is called by one. -/
def identifier? : {β : Type} → Call β → Option String
  | _, @getById _ _ id => some id.text
  | _, .permission uuid => some uuid.text
  | _, .updatePermission uuid _ => some uuid.text
  | _, .deletePermission uuid => some uuid.text
  | _, .regenerateCertificate id _ => some id.text
  | _, .setTransitional id _ => some id.text
  | _, _ => none

end Call

/-- The path of a request, read as a server reads it: there is a variable for each placeholder of
the template; the parameters after the `?` have the names that the template gives them, in order,
and the given texts; and an identifier stands in the place of the only placeholder. -/
structure Delivers (q : Request) (path : String) (parameters : List (String × String))
    (identifier? : Option String) : Prop where
  arity : Template.arity (Template.pieces q.template) = q.arguments.length
  names : (Query.parameters q.template).map Prod.fst = parameters.map Prod.fst
  parameters : Query.parameters path = parameters.map fun p => (p.1, some p.2)
  identifier : ∀ id, identifier? = some id → ∃ before name after text,
    Template.pieces q.template = [.literal before, .placeholder name, .literal after] ∧
      path.toList = before ++ text ++ after ∧ decode? text = some id

/-! ## Forms of templates -/

section Forms

open Template

variable {m : Method} {r : Route} {body : Option Json} {vs : List String}

theorem path_of_fills {cs : List Char} (h : Fills (pieces r.template) vs cs) :
    (Request.on m r vs body).path = .ok (String.ofList cs) :=
  fill_eq_ok_iff.2 (by rwa [String.toList_ofList])

/-- A path without a `?` has no parameters. -/
theorem parameters_eq_nil {cs : List Char} (h : '?' ∉ cs) :
    Query.parameters (String.ofList cs) = [] := by
  unfold Query.parameters
  rw [String.toList_ofList, Query.ofPath?_eq_none h]

/-- A template without placeholders. -/
theorem delivers_body (s : List Char) (hpieces : pieces r.template = [.literal s])
    (hnames : Query.parameters r.template = []) (hmark : '?' ∉ s) :
    ∃ p, (Request.on m r [] body).path = .ok p ∧ Delivers (.on m r [] body) p [] none := by
  have hfills : Fills (pieces r.template) [] (s ++ []) := by
    rw [hpieces]
    exact .literal s .nil
  rw [List.append_nil] at hfills
  refine ⟨_, path_of_fills hfills, hfills.arity_eq, ?_, parameters_eq_nil hmark, nofun⟩
  exact congrArg (List.map Prod.fst) hnames

/-- A template with an identifier in its path. -/
theorem delivers_identifier (before name after : List Char)
    (hpieces : pieces r.template = [.literal before, .placeholder name, .literal after])
    (hnames : Query.parameters r.template = []) (hbefore : '?' ∉ before) (hafter : '?' ∉ after)
    (id : String) :
    ∃ p, (Request.on m r [id] body).path = .ok p ∧
      Delivers (.on m r [id] body) p [] (some id) := by
  have hfills : Fills (pieces r.template) [id]
      (before ++ ((encodeComponent id).toList ++ (after ++ []))) := by
    rw [hpieces]
    exact .literal before (.placeholder name id (.literal after .nil))
  rw [List.append_nil] at hfills
  have hmark : '?' ∉ before ++ ((encodeComponent id).toList ++ after) := by
    have hid := Query.not_mem_encodeComponent (c := '?') (by decide) id
    simp [hbefore, hafter, hid]
  refine ⟨_, path_of_fills hfills, hfills.arity_eq, ?_, parameters_eq_nil hmark, ?_⟩
  · exact congrArg (List.map Prod.fst) hnames
  · rintro _ ⟨⟩
    refine ⟨before, name, after, (encodeComponent id).toList, hpieces, ?_, ?_⟩
    · rw [String.toList_ofList, List.append_assoc]
    · exact Text.Percent.decode?_encodeComponent id

/-- A template that becomes a query with the given parameters. -/
theorem delivers_query (base : List Char) (ps : List (String × String))
    (hfills : Fills (pieces r.template) vs (base ++ '?' :: Query.write ps))
    (hnames : (Query.parameters r.template).map Prod.fst = ps.map Prod.fst) (hmark : '?' ∉ base)
    (hne : ps ≠ []) (hps : ∀ key ∈ ps.map Prod.fst, Query.IsName key) :
    ∃ p, (Request.on m r vs body).path = .ok p ∧ Delivers (.on m r vs body) p ps none :=
  ⟨_, path_of_fills hfills, hfills.arity_eq, hnames,
    Query.parameters_write hmark hne fun p hp => hps p.1 (List.mem_map_of_mem hp), nofun⟩

/-- A template with one parameter. -/
theorem delivers_one (base name : List Char) (key : String)
    (hpieces : pieces r.template =
      [.literal (base ++ '?' :: key.toList ++ ['=']), .placeholder name, .literal []])
    (hnames : (Query.parameters r.template).map Prod.fst = [key]) (hmark : '?' ∉ base)
    (hkey : Query.IsName key) (v : String) :
    ∃ p, (Request.on m r [v] body).path = .ok p ∧
      Delivers (.on m r [v] body) p [(key, v)] none := by
  refine delivers_query base _ ?_ hnames hmark (by simp) (by simpa using hkey)
  have h := Fills.literal (base ++ '?' :: key.toList ++ ['=']) <|
    .placeholder name v <| .literal [] .nil
  rw [hpieces]
  simpa [Query.write, Query.piece] using h

/-- A template with two parameters. -/
theorem delivers_two (base name name' : List Char) (key key' : String)
    (hpieces : pieces r.template =
      [.literal (base ++ '?' :: key.toList ++ ['=']), .placeholder name,
        .literal ('&' :: key'.toList ++ ['=']), .placeholder name', .literal []])
    (hnames : (Query.parameters r.template).map Prod.fst = [key, key']) (hmark : '?' ∉ base)
    (hkey : Query.IsName key) (hkey' : Query.IsName key') (v v' : String) :
    ∃ p, (Request.on m r [v, v'] body).path = .ok p ∧
      Delivers (.on m r [v, v'] body) p [(key, v), (key', v')] none := by
  refine delivers_query base _ ?_ hnames hmark (by simp) (by simpa using ⟨hkey, hkey'⟩)
  have h := Fills.literal (base ++ '?' :: key.toList ++ ['=']) <|
    .placeholder name v <| .literal ('&' :: key'.toList ++ ['=']) <|
      .placeholder name' v' <| .literal [] .nil
  rw [hpieces]
  simpa [Query.write, Query.piece] using h

/-- A template with one parameter that is given and one that is always the same. -/
theorem delivers_fixed (base name : List Char) (key : String) (p : String × String)
    (hpieces : pieces r.template =
      [.literal (base ++ '?' :: key.toList ++ ['=']), .placeholder name,
        .literal ('&' :: Query.piece p)])
    (hnames : (Query.parameters r.template).map Prod.fst = [key, p.1]) (hmark : '?' ∉ base)
    (hkey : Query.IsName key) (hp : Query.IsName p.1) (v : String) :
    ∃ path, (Request.on m r [v] body).path = .ok path ∧
      Delivers (.on m r [v] body) path [(key, v), p] none := by
  refine delivers_query base _ ?_ hnames hmark (by simp) (by simpa using ⟨hkey, hp⟩)
  have h := Fills.literal (base ++ '?' :: key.toList ++ ['=']) <|
    .placeholder name v <| .literal ('&' :: Query.piece p) .nil
  rw [hpieces]
  simpa [Query.write, Query.piece] using h

end Forms

/-! ## Calls -/

/-- **What a call says reaches the server.** The path of its request has a variable for each
placeholder, and reads back to the parameters and the identifier of the call, whatever these
hold. -/
theorem delivers_arguments (c : Call β) (h : ¬ c.Refused) :
    ∃ q, c.request? = some q ∧ ∃ p, q.path = .ok p ∧ Delivers q p c.parameters c.identifier? := by
  cases c with
  | write | generate =>
    exact ⟨.on _ .data [] _, rfl, delivers_body "/api/v1/data".toList rfl (by decide) (by decide)⟩
  | regenerate =>
    exact ⟨.on _ .regenerate [] _, rfl,
      delivers_body "/api/v1/regenerate".toList rfl (by decide) (by decide)⟩
  | getById id =>
    exact ⟨.on _ .dataById [id.text] _, rfl, delivers_identifier "/api/v1/data/".toList
      "id".toList [] rfl (by decide) (by decide) (by decide) _⟩
  | getByName name =>
    exact ⟨.on _ .dataCurrentByName [name.path] _, rfl, delivers_fixed "/api/v1/data".toList
      "name".toList "name" ("current", "true") rfl (by decide) (by decide) (by decide)
      (by decide) _⟩
  | history name versions =>
    refine ⟨.on .get .dataVersionsByName [name.path, toString versions], ?_,
      delivers_two "/api/v1/data".toList "name".toList "versions".toList "name" "versions" rfl
        (by decide) (by decide) (by decide) (by decide) _ _⟩
    have hversions : ¬ versions = 0 := h
    simp only [Call.request?, Call.operation, Credentials.history, if_neg hversions]
    rfl
  | findByName text =>
    exact ⟨.on _ .dataNameLike [text] _, rfl, delivers_one "/api/v1/data".toList "name".toList
      "name-like" rfl (by decide) (by decide) (by decide) _⟩
  | findByPath path =>
    exact ⟨.on _ .dataByPath [path] _, rfl, delivers_one "/api/v1/data".toList "path".toList
      "path" rfl (by decide) (by decide) (by decide) _⟩
  | allPaths =>
    refine ⟨.on .get .dataPaths, rfl, delivers_query "/api/v1/data".toList [("paths", "true")] ?_
      (by decide) (by decide) (by decide) (by decide)⟩
    exact .literal "/api/v1/data?paths=true".toList .nil
  | deleteByName name =>
    exact ⟨.on _ .dataByName [name.path] _, rfl, delivers_one "/api/v1/data".toList "name".toList
      "name" rfl (by decide) (by decide) (by decide) _⟩
  | batchPermissions name =>
    exact ⟨.on _ .permissionsV1ByName [name.path] _, rfl,
      delivers_one "/api/v1/permissions".toList "name".toList "credential_name" rfl (by decide)
        (by decide) (by decide) _⟩
  | addBatch name permissions =>
    refine ⟨.on .post .permissionsV1 [] (some (PermissionBatch.mk name permissions).toJson.sorted),
      ?_, delivers_body "/api/v1/permissions".toList rfl (by decide) (by decide)⟩
    have hpermissions : ¬ permissions = [] := h
    simp only [Call.request?, Call.operation, BatchPermissions.add, if_neg hpermissions]
    rfl
  | deleteFromBatch name actor =>
    exact ⟨.on _ .permissionsV1ByNameAndActor [name.path, actor.encode] _, rfl,
      delivers_two "/api/v1/permissions".toList "name".toList "actor".toList "credential_name"
        "actor" rfl (by decide) (by decide) (by decide) (by decide) _ _⟩
  | permission uuid | updatePermission uuid | deletePermission uuid =>
    exact ⟨.on _ .permissionsV2ById [uuid.text] _, rfl,
      delivers_identifier "/api/v2/permissions/".toList "uuid".toList [] rfl (by decide)
        (by decide) (by decide) _⟩
  | findPermission path actor =>
    exact ⟨.on _ .permissionsV2ByPathAndActor [path, actor.encode] _, rfl,
      delivers_two "/api/v2/permissions".toList "path".toList "actor".toList "path" "actor" rfl
        (by decide) (by decide) (by decide) (by decide) _ _⟩
  | addPermission =>
    exact ⟨.on _ .permissionsV2 [] _, rfl,
      delivers_body "/api/v2/permissions".toList rfl (by decide) (by decide)⟩
  | certificates =>
    exact ⟨.on _ .certificates [] _, rfl,
      delivers_body "/api/v1/certificates".toList rfl (by decide) (by decide)⟩
  | certificateByName name =>
    exact ⟨.on _ .certificatesByName [name.path] _, rfl,
      delivers_one "/api/v1/certificates".toList "name".toList "name" rfl (by decide) (by decide)
        (by decide) _⟩
  | regenerateCertificate id =>
    exact ⟨.on _ .certificateRegenerate [id.text] _, rfl,
      delivers_identifier "/api/v1/certificates/".toList "id".toList "/regenerate".toList rfl
        (by decide) (by decide) (by decide) _⟩
  | regenerateSigned =>
    exact ⟨.on _ .bulkRegenerate [] _, rfl,
      delivers_body "/api/v1/bulk-regenerate".toList rfl (by decide) (by decide)⟩
  | setTransitional id =>
    exact ⟨.on _ .certificateTransitionalVersion [id.text] _, rfl,
      delivers_identifier "/api/v1/certificates/".toList "id".toList
        "/update_transitional_version".toList rfl (by decide) (by decide) (by decide) _⟩
  | interpolate =>
    exact ⟨.on _ .interpolate [] _, rfl,
      delivers_body "/api/v1/interpolate".toList rfl (by decide) (by decide)⟩
  | version =>
    exact ⟨.on _ .version [] _, rfl, delivers_body "/version".toList rfl (by decide) (by decide)⟩

/-- Delimiters in a name and in an identity stay inside their parameters. -/
theorem delivers_delimiters :
    let name := Name.ofWellFormed ["a&b=c", "?\x7b%26\x7d#"] (by decide)
    let c := Call.deleteFromBatch name ⟨.user, "x&actor=y", by decide⟩
    ¬ c.Refused ∧ ∃ q, c.request? = some q ∧ ∃ p, q.path = .ok p ∧
      Query.parameters p = [("credential_name", some "/a&b=c/?\x7b%26\x7d#"),
        ("actor", some "uaa-user:x&actor=y")] := by
  intro name c
  have hc : ¬ c.Refused := nofun
  obtain ⟨q, hq, p, hp, hdelivers⟩ := delivers_arguments c hc
  have hpath : name.path = "/a&b=c/?\x7b%26\x7d#" := by decide +kernel
  refine ⟨hc, q, hq, p, hp, ?_⟩
  rw [hdelivers.parameters]
  show [("credential_name", some name.path), ("actor", some (Actor.encode _))] = _
  rw [hpath]
  rfl

end CredStore.Client
