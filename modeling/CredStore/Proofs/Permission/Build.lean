import CredStore.Proofs.Edits
import CredStore.Proofs.Permission.Document

/-!
# Building permissions

Of the actors that edits give the last counts, and an actor without an identity is none; of the
kinds of access each counts once, where it was first given (`Permission.Draft.ofEdits_eq`). So what
a permission allows is what was asked for, in whatever pieces. Reading a document is building from
its parts (`Permission.decoder_eq_ok_iff`), and an address takes a permission as it is and gives it
back (`AddressedPermission.build_own`).
-/

namespace CredStore

namespace Permission

/-! ## Edits -/

namespace Edit

/-- The actor that an edit sets; one that has no identity is refused. -/
def actor? : Edit → Option Actor
  | .actor a => some a
  | .identity type s => (Actor.make type s).toOption
  | .operation _ | .operations _ => none

/-- The kinds of access that an edit gives. -/
def given : Edit → List Access
  | .operation o => [o]
  | .operations os => os
  | .actor _ | .identity _ _ => []

end Edit

namespace Draft

/-- The draft after one edit; it stays as it was when the edit is refused. -/
def attempt (d : Draft) (e : Edit) : Draft :=
  match d.edit e with
  | .ok d' => d'
  | .error _ => d

/-- The draft after these edits. -/
def ofEdits (es : List Edit) : Draft :=
  es.foldl attempt { nodup := List.nodup_nil }

/-- An edit is refused when it gives an actor an empty identity, and only then. -/
theorem edit_eq_error_iff {d : Draft} {e : Edit} {err : Error} :
    d.edit e = .error err ↔
      (∃ type, e = .identity type "") ∧ err = .invalidArgument .emptyIdentity := by
  cases e with
  | identity type s =>
    by_cases hs : s = ""
    · subst hs
      simp [edit, Actor.make, refuse, eq_comm]
    · simp [edit, Actor.make, hs]
  | actor a => simp [edit]
  | operation o => simp [edit]
  | operations os => simp [edit]

theorem eq_of_parts {d d' : Draft} (hactor : d.actor = d'.actor)
    (hoperations : d.operations = d'.operations) : d = d' := by
  cases d
  cases d'
  cases hactor
  cases hoperations
  rfl

/-- What one edit does. -/
theorem attempt_eq (d : Draft) (e : Edit) :
    (d.attempt e).actor = e.actor?.or d.actor ∧
      (d.attempt e).operations = Distinct.addAll d.operations e.given := by
  cases e with
  | identity type s =>
    by_cases hs : s = ""
    · subst hs
      exact ⟨rfl, rfl⟩
    · simp only [attempt, edit, Actor.make, dif_pos hs, map_ok, Edit.actor?, Edit.given]
      exact ⟨rfl, rfl⟩
  | actor a => exact ⟨rfl, rfl⟩
  | operation o => exact ⟨rfl, rfl⟩
  | operations os => exact ⟨rfl, rfl⟩

theorem foldl_attempt_operations (es : List Edit) (d : Draft) :
    (es.foldl attempt d).operations = Distinct.addAll d.operations (es.flatMap Edit.given) :=
  Edits.foldl_grow Draft.operations Distinct.addAll (fun _ => rfl) Distinct.addAll_append
    (fun d e => (attempt_eq d e).2) es d

/-- **After any edits** the actor is the one that was set last, and the kinds of access are those
that were given, each where it was first given. -/
theorem ofEdits_eq (es : List Edit) :
    (ofEdits es).actor = (es.filterMap Edit.actor?).getLast? ∧
      (ofEdits es).operations = (es.flatMap Edit.given).eraseDups := by
  refine ⟨?_, ?_⟩
  · exact (Edits.foldl_last (fun d e => (attempt_eq d e).1) es {}).trans (Option.or_none ..)
  · rw [ofEdits, foldl_attempt_operations]
    exact Distinct.ofList_eq_eraseDups _

theorem build_eq_ok_iff {d : Draft} {p : Permission} :
    d.build = .ok p ↔ d.actor = some p.actor ∧ d.operations = p.operations := by
  obtain ⟨actor, operations, hne, hnodup⟩ := p
  unfold build
  cases d.actor with
  | none => simp [refuse]
  | some a =>
    by_cases h : d.operations = []
    · simp [h, refuse, hne.symm]
    · simp [h]

theorem exists_build_iff {d : Draft} :
    (∃ p, d.build = .ok p) ↔ d.actor.isSome ∧ d.operations ≠ [] := by
  unfold build
  cases d.actor with
  | none => simp [refuse]
  | some a => by_cases h : d.operations = [] <;> simp [h, refuse]

theorem isInvalidArgument_build {d : Draft} {err : Error} (h : d.build = .error err) :
    err.isInvalidArgument := by
  unfold build at h
  split at h
  · cases h
    rfl
  · split at h
    · cases h
    · cases h
      rfl

end Draft

/-! ## Permissions that were built -/

section Built

variable {es : List Edit} {p : Permission}

/-- **A permission is what was asked for**: the last actor, and each kind of access where it was
first given. -/
theorem build_ofEdits_iff : (Draft.ofEdits es).build = .ok p ↔
    (es.filterMap Edit.actor?).getLast? = some p.actor ∧
      p.operations = (es.flatMap Edit.given).eraseDups := by
  obtain ⟨hactor, hoperations⟩ := Draft.ofEdits_eq es
  rw [Draft.build_eq_ok_iff, hactor, hoperations, eq_comm (a := p.operations)]

theorem exists_build_ofEdits :
    (∃ p, (Draft.ofEdits es).build = .ok p) ↔
      (∃ e ∈ es, e.actor?.isSome) ∧ ∃ e ∈ es, e.given ≠ [] := by
  obtain ⟨hactor, hoperations⟩ := Draft.ofEdits_eq es
  have hnil : (es.flatMap Edit.given).eraseDups = [] ↔ es.flatMap Edit.given = [] := by
    cases es.flatMap Edit.given <;> simp [List.eraseDups_cons]
  rw [Draft.exists_build_iff, hactor, hoperations, Edits.isSome_last_iff, ne_eq, hnil,
    List.flatMap_eq_nil_iff]
  simp

/-- What is allowed is what was given. -/
theorem allows_iff_given (h : (Draft.ofEdits es).build = .ok p) {o : Access} :
    p.allows o ↔ ∃ e ∈ es, o ∈ e.given := by
  rw [allows, List.contains_iff_mem, (build_ofEdits_iff.1 h).2, List.mem_eraseDups,
    List.mem_flatMap]

end Built

/-! ## Permissions that were read -/

/-- **Reading is building**: the parts that a document gives are what an actor and kinds of access
are for a draft. -/
theorem decoder_eq_ok_iff {j : Json} {p : Permission} :
    decoder j = .ok p ↔ ∃ raw, record.decoder "RawPermission" j = .ok raw ∧
      (Draft.ofEdits [.actor raw.actor, .operations raw.operations]).build = .ok p :=
  Decoder.ruled_eq_ok

end Permission

/-! ## Addressed permissions -/

namespace AddressedPermission

/-- The path that an edit sets. -/
def Edit.path? : Edit → Option String
  | .path s => some s
  | .permission _ => none

/-- The permission that an edit sets. -/
def Edit.permission? : Edit → Option Permission
  | .path _ => none
  | .permission p => some p

namespace Draft

/-- The draft after these edits. -/
def ofEdits (es : List Edit) : Draft :=
  es.foldl edit {}

/-- What one edit does. -/
theorem edit_eq (d : Draft) (e : Edit) :
    (d.edit e).path = e.path?.or d.path ∧
      (d.edit e).permission = e.permission?.or d.permission := by
  cases e <;> exact ⟨rfl, rfl⟩

/-- After any edits the path and the permission are those that were set last. -/
theorem ofEdits_eq (es : List Edit) :
    (ofEdits es).path = (es.filterMap Edit.path?).getLast? ∧
      (ofEdits es).permission = (es.filterMap Edit.permission?).getLast? :=
  ⟨(Edits.foldl_last (fun d e => (edit_eq d e).1) es {}).trans (Option.or_none ..),
    (Edits.foldl_last (fun d e => (edit_eq d e).2) es {}).trans (Option.or_none ..)⟩

theorem build_eq_ok_iff {d : Draft} {q : AddressedPermission} :
    d.build = .ok q ↔ q.uuid = none ∧ d.path = some q.path ∧ d.permission = some q.permission := by
  obtain ⟨uuid, path, permission, hpath⟩ := q
  obtain ⟨path', permission'⟩ := d
  unfold build
  cases path' with
  | none => simp [refuse]
  | some s =>
    by_cases hs : s = ""
    · subst hs
      simp [refuse, hpath.symm]
    · cases permission' with
      | none => simp [hs, refuse]
      | some p => simp [hs, eq_comm]

end Draft

theorem build_ofEdits_iff {es : List Edit} {q : AddressedPermission} :
    (Draft.ofEdits es).build = .ok q ↔ q.uuid = none ∧
      (es.filterMap Edit.path?).getLast? = some q.path ∧
      (es.filterMap Edit.permission?).getLast? = some q.permission := by
  rw [Draft.build_eq_ok_iff, (Draft.ofEdits_eq es).1, (Draft.ofEdits_eq es).2]

/-- An address is put around a permission that was given. -/
theorem mem_of_build {es : List Edit} {q : AddressedPermission}
    (h : (Draft.ofEdits es).build = .ok q) : .permission q.permission ∈ es := by
  obtain ⟨-, -, hlast⟩ := build_ofEdits_iff.1 h
  obtain ⟨e, he, hp⟩ := List.mem_filterMap.1 (List.mem_of_getLast? hlast)
  cases e <;> cases hp
  exact he

/-- **Its own path and permission give an addressed permission back**, without the identifier. -/
theorem build_own (q : AddressedPermission) :
    (Draft.ofEdits [.path q.path, .permission q.permission]).build = .ok { q with uuid := none } ∧
    (Draft.ofEdits [.permission q.permission, .path q.path]).build =
      .ok { q with uuid := none } :=
  ⟨build_ofEdits_iff.2 ⟨rfl, rfl, rfl⟩, build_ofEdits_iff.2 ⟨rfl, rfl, rfl⟩⟩

/-- The permission in a document with an address is built from the parts that it gives. -/
theorem exists_build_of_decoder {j : Json} {q : AddressedPermission} (h : decoder j = .ok q) :
    ∃ a os, (Permission.Draft.ofEdits [.actor a, .operations os]).build = .ok q.permission := by
  obtain ⟨raw, -, hraw⟩ := Decoder.ruled_eq_ok.1 h
  exact ⟨raw.actor, raw.operations, (ofRaw_eq_ok.1 hraw).1⟩

end AddressedPermission

/-! ## All permissions -/

namespace Permission

/-- The ways to come by a permission: it was built or read, or it stands within an addressed
permission that was read, or that was built around one come by before. -/
inductive Obtained : Permission → Prop
  | built {es p} : (Draft.ofEdits es).build = .ok p → Obtained p
  | read {j p} : decoder j = .ok p → Obtained p
  | readWithin {j q} : AddressedPermission.decoder j = .ok q → Obtained q.permission
  | builtWithin {es : List AddressedPermission.Edit} {q} :
    (∀ p, .permission p ∈ es → Obtained p) →
      (AddressedPermission.Draft.ofEdits es).build = .ok q → Obtained q.permission

/-- However it was come by, a permission is one that some edits build. -/
theorem Obtained.exists_build {p : Permission} (h : Obtained p) :
    ∃ es, (Draft.ofEdits es).build = .ok p := by
  induction h with
  | built h => exact ⟨_, h⟩
  | read h =>
    obtain ⟨raw, -, hbuild⟩ := decoder_eq_ok_iff.1 h
    exact ⟨_, hbuild⟩
  | readWithin h =>
    obtain ⟨a, os, hbuild⟩ := AddressedPermission.exists_build_of_decoder h
    exact ⟨_, hbuild⟩
  | builtWithin _ h ih => exact ih _ (AddressedPermission.mem_of_build h)

/-- **A permission is what was asked for, wherever it comes from.** Whatever the edits, in any
order and repeated: one that gives an empty identity is refused and leaves the draft as it was, and
no other is. A permission is built if an actor was accepted and some kind of access was given; its
actor is the last accepted one, and its kinds of access are those that were given, each once and
where it was first given, whether they came one by one or several at a time. It allows what was
given and nothing else. Every permission that can be come by has an identity and kinds of access,
none of them twice; and an addressed permission is built again from its own path and permission,
but for the identifier. -/
theorem grants_what_was_given :
    (∀ (d : Draft) (e : Edit), ((∃ err, d.edit e = .error err) ↔ ∃ type, e = .identity type "") ∧
      ∀ err, d.edit e = .error err → err.isInvalidArgument ∧ d.attempt e = d) ∧
    (∀ es : List Edit,
      ((∃ p, (Draft.ofEdits es).build = .ok p) ↔
        (∃ e ∈ es, e.actor?.isSome) ∧ ∃ e ∈ es, e.given ≠ []) ∧
      (∀ p, (Draft.ofEdits es).build = .ok p ↔
        (es.filterMap Edit.actor?).getLast? = some p.actor ∧
          p.operations = (es.flatMap Edit.given).eraseDups) ∧
      (∀ p, (Draft.ofEdits es).build = .ok p → ∀ o, p.allows o ↔ ∃ e ∈ es, o ∈ e.given) ∧
      ∀ err, (Draft.ofEdits es).build = .error err → err.isInvalidArgument) ∧
    (∀ es es' : List Edit,
      (es.filterMap Edit.actor?).getLast? = (es'.filterMap Edit.actor?).getLast? →
      es.flatMap Edit.given = es'.flatMap Edit.given →
        (Draft.ofEdits es).build = (Draft.ofEdits es').build) ∧
    (∀ p, Obtained p → (∃ es, (Draft.ofEdits es).build = .ok p) ∧
      p.actor.identity ≠ "" ∧ p.operations ≠ [] ∧ p.operations.Nodup) ∧
    ∀ q : AddressedPermission, ∀ es ∈ [[AddressedPermission.Edit.path q.path,
        .permission q.permission], [.permission q.permission, .path q.path]],
      (AddressedPermission.Draft.ofEdits es).build = .ok { q with uuid := none } := by
  refine ⟨fun d e => ⟨?_, fun err h => ?_⟩, fun es => ⟨exists_build_ofEdits,
    fun p => build_ofEdits_iff, fun p h o => allows_iff_given h,
    fun err h => Draft.isInvalidArgument_build h⟩, fun es es' hactor hgiven => ?_,
    fun p h => ⟨h.exists_build, p.actor.identity_ne, p.operations_ne, p.nodup⟩, fun q es hes => ?_⟩
  · simp only [Draft.edit_eq_error_iff, exists_and_left, exists_eq, and_true]
  · have hrefused := Draft.edit_eq_error_iff.1 h
    refine ⟨by rw [hrefused.2]; rfl, ?_⟩
    rw [Draft.attempt, h]
  · obtain ⟨ha, ho⟩ := Draft.ofEdits_eq es
    obtain ⟨ha', ho'⟩ := Draft.ofEdits_eq es'
    have hsame : Draft.ofEdits es = Draft.ofEdits es' :=
      Draft.eq_of_parts (by rw [ha, ha', hactor]) (by rw [ho, ho', hgiven])
    rw [hsame]
  · simp only [List.mem_cons, List.not_mem_nil, or_false] at hes
    rcases hes with rfl | rfl
    · exact q.build_own.1
    · exact q.build_own.2

/-- An application without an identity is refused, and the user that was set before stays. -/
example : ((Draft.ofEdits [.identity .user "alice", .operations [.write, .read], .identity .app "",
    .operation .write]).build.toOption.map fun p => (p.actor.encode, p.operations)) =
      some ("uaa-user:alice", [.write, .read]) := by
  decide

end Permission

end CredStore
