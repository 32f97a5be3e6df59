import CredStore.Proofs.Client.Transcript
import CredStore.Proofs.Envelope.Shape
import Mathlib.Data.List.Forall2

/-!
# What the log depends on

Building an envelope reports its name, its type, and a mode that stands against a flag; the payload
and the permissions have no part in it (`buildLog_of_ok`), and a draft that is refused is not
reported. A call reports which operation it is and the outline of the response: that there was a
body, that there was none, or the text of a failure (`log_run`). So two runs that agree on this much
have the same log, whatever else they carry (`log_noninterference`).
-/

namespace CredStore

/-! ## Building -/

namespace Envelope.Draft

/-- The entry of an envelope that was built. -/
def builtEntry (name : Name) (tag : CredentialType) : LogEntry where
  level := .debug
  label := "Built credential request"
  fields := [("name", name.path), ("credential_type", tag.word)]

/-- The entry of a mode that stands against a flag. -/
def conflictEntry (m : WriteMode) (overwrite : Bool) : LogEntry where
  level := .warn
  label := "Both mode and legacy overwrite flag set, using explicit mode"
  fields := [("mode", m.word), ("overwrite", if overwrite then "true" else "false")]

/-- What building reports of a name, a type, a mode and a flag. -/
inductive Reports (name : Name) (tag : CredentialType) :
    Option WriteMode → Option Bool → Log → Prop
  | agreed {m : Option WriteMode} {b : Option Bool} : m = none ∨ b = none →
    Reports name tag m b [builtEntry name tag]
  | conflict (m : WriteMode) (b : Bool) :
    Reports name tag (some m) (some b) [conflictEntry m b, builtEntry name tag]

theorem Reports.unique {name : Name} {tag : CredentialType} {m : Option WriteMode}
    {b : Option Bool} {log log' : Log} (h : Reports name tag m b log)
    (h' : Reports name tag m b log') : log = log' := by
  cases h with
  | agreed hmb =>
    cases h' with
    | agreed => rfl
    | conflict => rcases hmb with hm | hb <;> contradiction
  | conflict =>
    cases h' with
    | agreed hmb => rcases hmb with hm | hb <;> contradiction
    | conflict => rfl

variable {k : PayloadKind} {d : Draft k.Carrier}

/-- What is reported when mode and flag are reconciled, and then when the envelope is made. -/
theorem reports_reconcile (n : Name) (tag : CredentialType) (m : Option WriteMode)
    (b : Option Bool) :
    Reports n tag m b ((WritePolicy.reconcile m b).log ++ [builtEntry n tag]) := by
  cases m with
  | none => cases b <;> exact .agreed (.inl rfl)
  | some m =>
    cases b with
    | none => exact .agreed (.inr rfl)
    | some b =>
      have hlog : (WritePolicy.reconcile (some m) (some b)).log = [conflictEntry m b] := by
        cases m <;> rfl
      rw [hlog]
      exact .conflict m b

/-- An envelope that is built is reported by its name, its type, the mode and the flag. -/
theorem buildLog_of_ok {e : Envelope k.Carrier} (h : d.build = .ok e) :
    ∃ n p, d.name = some n ∧ d.payload = some p ∧
      Reports n (Payload.tag p) d.mode d.overwrite d.buildLog := by
  unfold build at h
  unfold buildLog
  rcases finish_cases d with ⟨n, p, hd, hrun⟩ | ⟨-, why, hrun, -⟩
  · rw [hrun, CredentialType.text_eq_word]
    exact ⟨n, p, hd.name, hd.payload, reports_reconcile ..⟩
  · rw [hrun] at h
    cases h

end Envelope.Draft

/-! ## Operations -/

/-- What the log may show of a response. -/
inductive Outline where
  | body
  | empty
  | failed (text : String)
  deriving DecidableEq

namespace Outline

/-- The outline of a response. -/
def of : Response → Outline
  | .ok (some _) => body
  | .ok none => empty
  | .error e => failed e.message

/-- The entry of a response with this outline. -/
def entry : Outline → LogEntry
  | body =>
    { level := .debug, label := "CredHub request completed", fields := [("has_body", "true")] }
  | empty =>
    { level := .debug, label := "CredHub request completed", fields := [("has_body", "false")] }
  | failed text =>
    { level := .debug, label := "CredHub request failed", fields := [("error", text)] }

theorem responseEntry_eq (r : Response) : Operation.responseEntry r = (of r).entry := by
  rcases r with e | _ | j <;> rfl

/-- Responses that are both a body, both no content, or both failures with the same text. -/
theorem of_eq_of_iff {r s : Response} : of r = of s ↔
    (∃ j j', r = .ok (some j) ∧ s = .ok (some j')) ∨ (r = .ok none ∧ s = .ok none) ∨
      ∃ e e', r = .error e ∧ s = .error e' ∧ e.message = e'.message := by
  rcases r with e | _ | j <;> rcases s with e' | _ | j' <;> simp [of]

end Outline

namespace Client

/-- An operation of the client, whatever its arguments. -/
inductive CallKind where
  | write
  | generate
  | regenerate
  | getById
  | getByName
  | history
  | findByName
  | findByPath
  | allPaths
  | deleteByName
  | batchPermissions
  | addBatch
  | deleteFromBatch
  | permission
  | findPermission
  | addPermission
  | updatePermission
  | deletePermission
  | certificates
  | certificateByName
  | regenerateCertificate
  | regenerateSigned
  | setTransitional
  | interpolate
  | version
  deriving DecidableEq

namespace CallKind

/-- The method, the route and the name of an operation. -/
def place : CallKind → Method × Route × String
  | write => (.put, .data, "write")
  | generate => (.post, .data, "generate")
  | regenerate => (.post, .regenerate, "regenerate")
  | getById => (.get, .dataById, "get_by_id")
  | getByName => (.get, .dataCurrentByName, "get_by_name")
  | history => (.get, .dataVersionsByName, "get_by_name_with_history")
  | findByName => (.get, .dataNameLike, "find_by_name")
  | findByPath => (.get, .dataByPath, "find_by_path")
  | allPaths => (.get, .dataPaths, "get_all_paths")
  | deleteByName => (.delete, .dataByName, "delete_by_name")
  | batchPermissions => (.get, .permissionsV1ByName, "get_permissions")
  | addBatch => (.post, .permissionsV1, "add_permissions")
  | deleteFromBatch => (.delete, .permissionsV1ByNameAndActor, "delete_permission")
  | permission => (.get, .permissionsV2ById, "get_permission")
  | findPermission => (.get, .permissionsV2ByPathAndActor, "get_permission_by_path_and_actor")
  | addPermission => (.post, .permissionsV2, "add_permissions")
  | updatePermission => (.put, .permissionsV2ById, "update_permission")
  | deletePermission => (.delete, .permissionsV2ById, "delete_permission")
  | certificates => (.get, .certificates, "get_all")
  | certificateByName => (.get, .certificatesByName, "get_by_name")
  | regenerateCertificate => (.post, .certificateRegenerate, "regenerate")
  | regenerateSigned => (.post, .bulkRegenerate, "bulk_regenerate")
  | setTransitional => (.put, .certificateTransitionalVersion, "update_transitional_version")
  | interpolate => (.post, .interpolate, "interpolate_service_data")
  | version => (.get, .version, "version")

/-- The entry that opens the span of an operation. -/
def span (k : CallKind) : LogEntry where
  level := .info
  opensSpan := true
  label := "credhub_request"
  fields := [("method", k.place.1.text), ("template", k.place.2.1.template),
    ("operation", k.place.2.2)]

/-- What is reported of an operation and a response with this outline. -/
def trace (k : CallKind) (o : Outline) : Log :=
  [k.span, o.entry]

end CallKind

namespace Call

/-- The operation that a call asks for. -/
def kind : {β : Type} → Call β → CallKind
  | _, @write _ _ _ _ => .write
  | _, @generate _ _ _ _ _ _ => .generate
  | _, @regenerate _ _ _ => .regenerate
  | _, @getById _ _ _ => .getById
  | _, @getByName _ _ _ => .getByName
  | _, @history _ _ _ _ => .history
  | _, .findByName _ => .findByName
  | _, .findByPath _ => .findByPath
  | _, .allPaths => .allPaths
  | _, .deleteByName _ => .deleteByName
  | _, .batchPermissions _ => .batchPermissions
  | _, .addBatch _ _ => .addBatch
  | _, .deleteFromBatch _ _ => .deleteFromBatch
  | _, .permission _ => .permission
  | _, .findPermission _ _ => .findPermission
  | _, .addPermission _ => .addPermission
  | _, .updatePermission _ _ => .updatePermission
  | _, .deletePermission _ => .deletePermission
  | _, .certificates => .certificates
  | _, .certificateByName _ => .certificateByName
  | _, .regenerateCertificate _ _ => .regenerateCertificate
  | _, .regenerateSigned _ => .regenerateSigned
  | _, .setTransitional _ _ => .setTransitional
  | _, .interpolate _ => .interpolate
  | _, .version => .version

end Call

variable {β γ : Type}

/-- No argument of a call is in the method, the template or the name of its operation. -/
theorem place_operation {c : Call β} {op : Operation β} (h : c.operation = .ok op) :
    op.request.method = c.kind.place.1 ∧ op.request.template = c.kind.place.2.1.template ∧
      op.name = c.kind.place.2.2 := by
  cases c with
  | history name versions =>
    obtain rfl := operation_history h
    exact ⟨rfl, rfl, rfl⟩
  | addBatch name permissions =>
    obtain rfl := operation_addBatch h
    exact ⟨rfl, rfl, rfl⟩
  | _ =>
    cases h
    exact ⟨rfl, rfl, rfl⟩

theorem entries_eq {c : Call β} {op : Operation β} (h : c.operation = .ok op) (r : Response) :
    op.entries r = c.kind.trace (.of r) := by
  obtain ⟨hmethod, htemplate, hname⟩ := place_operation h
  unfold Operation.entries CallKind.trace CallKind.span
  rw [hmethod, htemplate, hname, Outline.responseEntry_eq]

/-- What one call adds to the log. -/
theorem log_run (c : Call β) (x : Exchange) :
    (c.Refused ∧ (c.run x).2.log = x.log) ∨
      (¬ c.Refused ∧ (c.run x).2.log = x.log ++ c.kind.trace (.of x.next)) := by
  unfold Call.run
  rcases operation_cases c with ⟨hc, why, ho⟩ | ⟨hc, op, ho⟩
  · rw [ho]
    exact .inl ⟨hc, rfl⟩
  · rw [ho]
    refine .inr ⟨hc, ?_⟩
    show x.log ++ op.entries x.next = _
    rw [entries_eq ho]

/-! ## Sessions -/

namespace AnyCall

/-- Two calls ask for the same operation, and both or neither are refused. -/
structure SameOperation (c d : AnyCall) : Prop where
  kind : c.call.kind = d.call.kind
  refused : c.call.Refused ↔ d.call.Refused

variable {c d : AnyCall} {cs ds : List AnyCall} {x y : Exchange}

theorem of_next (h : x.pending.map Outline.of = y.pending.map Outline.of) :
    Outline.of x.next = Outline.of y.next := by
  have hof : ∀ x : Exchange, Outline.of x.next =
      (x.pending.map Outline.of).head?.getD (.of Exchange.exhausted) := by
    intro x
    rw [List.head?_map, Option.getD_map]
    rfl
  rw [hof, hof, h]

/-- Calls for the same operation report the same of responses with the same outline. -/
theorem SameOperation.log_run (h : SameOperation c d)
    (hnext : Outline.of x.next = Outline.of y.next) :
    ∃ entries, (c.run x).2.log = x.log ++ entries ∧ (d.run y).2.log = y.log ++ entries := by
  rcases Client.log_run c.call x with ⟨hc, hx⟩ | ⟨hc, hx⟩
  · rcases Client.log_run d.call y with ⟨-, hy⟩ | ⟨hd, -⟩
    · exact ⟨[], hx.trans (List.append_nil _).symm, hy.trans (List.append_nil _).symm⟩
    · exact absurd (h.refused.1 hc) hd
  · rcases Client.log_run d.call y with ⟨hd, -⟩ | ⟨-, hy⟩
    · exact absurd (h.refused.2 hd) hc
    · rw [← h.kind, ← hnext] at hy
      exact ⟨_, hx, hy⟩

/-- Calls for the same operation take as many responses. -/
theorem SameOperation.pending_run (h : SameOperation c d)
    (hxy : x.pending.map Outline.of = y.pending.map Outline.of) :
    (c.run x).2.pending.map Outline.of = (d.run y).2.pending.map Outline.of := by
  have hlength : c.call.request?.toList.length = d.call.request?.toList.length := by
    by_cases hc : c.call.Refused
    · rw [request?_eq_none_iff.2 hc, request?_eq_none_iff.2 (h.refused.1 hc)]
    · have hd := mt h.refused.2 hc
      obtain ⟨q, hq⟩ := Option.ne_none_iff_exists'.1 (mt request?_eq_none_iff.1 hc)
      obtain ⟨r, hr⟩ := Option.ne_none_iff_exists'.1 (mt request?_eq_none_iff.1 hd)
      rw [hq, hr]
      rfl
  rw [(run_exchange c x).2, (run_exchange d y).2, List.map_drop, List.map_drop, hxy, hlength]

/-- Sessions of the same operations on responses of the same outlines report the same. -/
theorem log_runAll (h : List.Forall₂ SameOperation cs ds)
    (hxy : x.pending.map Outline.of = y.pending.map Outline.of) :
    ∃ entries, (runAll cs x).2.log = x.log ++ entries ∧ (runAll ds y).2.log = y.log ++ entries := by
  induction h generalizing x y with
  | nil => exact ⟨[], (List.append_nil _).symm, (List.append_nil _).symm⟩
  | cons hcd _ ih =>
    obtain ⟨first, hc, hd⟩ := hcd.log_run (of_next hxy)
    obtain ⟨rest, hcs, hds⟩ := ih (hcd.pending_run hxy)
    refine ⟨first ++ rest, ?_, ?_⟩
    · rw [runAll_cons, hcs, hc, List.append_assoc]
    · rw [runAll_cons, hds, hd, List.append_assoc]

end AnyCall

/-- **Neither payloads nor arguments nor bodies are in the log.** Building reports nothing when it
fails, and else the envelope by name and type, after the conflict of mode and flag if both are set:
two drafts that agree on these have the same log. A refused call reports nothing. Every other call
reports its operation and the outline of the response, so two calls for the same operation, with
any arguments, report the same of two bodies, of no content, and of failures with the same text;
and so do two sessions. -/
theorem log_noninterference :
    (∀ (k : PayloadKind) (d : Envelope.Draft k.Carrier),
      (∀ e, d.build = .error e → d.buildLog = []) ∧
      ∀ e, d.build = .ok e → ∃ n p, d.name = some n ∧ d.payload = some p ∧
        Envelope.Draft.Reports n (Payload.tag p) d.mode d.overwrite d.buildLog) ∧
    (∀ (k k' : PayloadKind) (d : Envelope.Draft k.Carrier) (d' : Envelope.Draft k'.Carrier) e e',
      d.build = .ok e → d'.build = .ok e' → d.name = d'.name →
      d.payload.map Payload.tag = d'.payload.map Payload.tag → d.mode = d'.mode →
      d.overwrite = d'.overwrite → d.buildLog = d'.buildLog) ∧
    (∀ (β : Type) (c : Call β) (x : Exchange), c.Refused → (c.run x).2.log = x.log) ∧
    (∀ (β γ : Type) (c : Call β) (d : Call γ) (x y : Exchange), ¬ c.Refused → ¬ d.Refused →
      c.kind = d.kind →
      ((∃ j j', x.next = .ok (some j) ∧ y.next = .ok (some j')) ∨
        (x.next = .ok none ∧ y.next = .ok none) ∨
        ∃ e e', x.next = .error e ∧ y.next = .error e' ∧ e.message = e'.message) →
      ∃ span event, (c.run x).2.log = x.log ++ [span, event] ∧
        (d.run y).2.log = y.log ++ [span, event]) ∧
    ∀ (cs ds : List AnyCall) (x y : Exchange), List.Forall₂ AnyCall.SameOperation cs ds →
      x.pending.map Outline.of = y.pending.map Outline.of →
      ∃ entries, (AnyCall.runAll cs x).2.log = x.log ++ entries ∧
        (AnyCall.runAll ds y).2.log = y.log ++ entries := by
  refine ⟨fun k d => ⟨fun e => Envelope.Draft.buildLog_of_error, fun e h => ?_⟩, ?_, ?_, ?_, ?_⟩
  · exact Envelope.Draft.buildLog_of_ok h
  · intro k k' d d' e e' h h' hname htag hmode hoverwrite
    obtain ⟨n, p, hn, hp, hlog⟩ := Envelope.Draft.buildLog_of_ok h
    obtain ⟨n', p', hn', hp', hlog'⟩ := Envelope.Draft.buildLog_of_ok h'
    obtain rfl : n = n' := Option.some.inj (hn.symm.trans (hname.trans hn'))
    rw [hp, hp', Option.map_some, Option.map_some] at htag
    rw [← Option.some.inj htag, ← hmode, ← hoverwrite] at hlog'
    exact hlog.unique hlog'
  · intro β c x hc
    rcases log_run c x with ⟨-, hx⟩ | ⟨hn, -⟩
    · exact hx
    · exact absurd hc hn
  · intro β γ c d x y hc hd hkind hxy
    have hnext := Outline.of_eq_of_iff.2 hxy
    rcases log_run c x with ⟨hn, -⟩ | ⟨-, hx⟩
    · exact absurd hn hc
    rcases log_run d y with ⟨hn, -⟩ | ⟨-, hy⟩
    · exact absurd hn hd
    rw [← hkind, ← hnext] at hy
    exact ⟨_, _, hx, hy⟩
  · exact fun cs ds x y h hxy => AnyCall.log_runAll h hxy

end Client

end CredStore
