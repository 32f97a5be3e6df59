import CredStore.Envelope
import CredStore.Proofs.Edits
import CredStore.Proofs.Json.Decode

/-!
# Building envelopes

Of the edits of a draft the last of each single part counts, and all permissions in order
(`ofEdits_eq_said`). A draft that has all that is asked of it becomes an envelope, which is reported
at the end; every other draft is refused before anything is reported (`finish_cases`).
-/

namespace CredStore

namespace Envelope

variable {α : Type}

/-! ## Edits -/

namespace Edit

/-- The name that an edit sets. -/
def name? : Edit α → Option Name
  | .name n => some n
  | _ => none

/-- The payload that an edit sets. -/
def payload? : Edit α → Option α
  | .payload p => some p
  | _ => none

/-- The mode that an edit sets. -/
def mode? : Edit α → Option WriteMode
  | .mode m => some m
  | _ => none

/-- The flag that an edit sets. -/
def overwrite? : Edit α → Option Bool
  | .overwrite b => some b
  | _ => none

/-- The permissions that an edit adds. -/
def granted : Edit α → List Permission
  | .permission p => [p]
  | .permissions ps => ps
  | _ => []

end Edit

namespace Draft

/-- What a list of edits says: the last of each single part, and all permissions in order. -/
def said (es : List (Edit α)) : Draft α where
  name := (es.filterMap Edit.name?).getLast?
  payload := (es.filterMap Edit.payload?).getLast?
  mode := (es.filterMap Edit.mode?).getLast?
  overwrite := (es.filterMap Edit.overwrite?).getLast?
  permissions := es.flatMap Edit.granted

/-- A single part holds what was set last. -/
theorem ofEdits_single {γ : Type} {part : Draft α → Option γ} {sets : Edit α → Option γ}
    (hedit : ∀ d e, part (edit d e) = (sets e).or (part d)) (hunset : part {} = none)
    (es : List (Edit α)) : part (ofEdits es) = (es.filterMap sets).getLast? := by
  rw [ofEdits, Edits.foldl_last hedit, hunset, Option.or_none]

theorem ofEdits_permissions (es : List (Edit α)) :
    (ofEdits es).permissions = es.flatMap Edit.granted :=
  Edits.foldl_grow Draft.permissions (· ++ ·) List.append_nil
    (fun ps qs rs => (List.append_assoc ps qs rs).symm)
    (fun d e => by cases e <;> simp [edit, Edit.granted]) es {}

/-- **Only what was said last counts, and all permissions.** -/
theorem ofEdits_eq_said (es : List (Edit α)) : ofEdits es = said es := by
  refine Draft.ext ?name ?payload ?mode ?overwrite (ofEdits_permissions es)
  case name => exact ofEdits_single (fun d e => by cases e <;> rfl) rfl es
  case payload => exact ofEdits_single (fun d e => by cases e <;> rfl) rfl es
  case mode => exact ofEdits_single (fun d e => by cases e <;> rfl) rfl es
  case overwrite => exact ofEdits_single (fun d e => by cases e <;> rfl) rfl es

end Draft

/-! ## Making the envelope -/

namespace Draft

variable [Payload α]

/-- The draft has what is asked of it: a name, a payload that keeps its rule, and no permissions
unless the payload is a value. -/
structure Complete (d : Draft α) (n : Name) (p : α) : Prop where
  name : d.name = some n
  payload : d.payload = some p
  valid : Payload.validate p = .ok ()
  permitted : Payload.field α = .value ∨ d.permissions = []

/-- **What making an envelope does.** A draft that is complete becomes the envelope of its parts;
after what reconciling mode and flag reports, the envelope is reported by its name and its type.
Every other draft is refused by the library or by the rule of its payload, and nothing is
reported. -/
theorem finish_cases (d : Draft α) :
    (∃ n p, d.Complete n p ∧ d.finish.run =
      ⟨.ok ⟨n, p, (WritePolicy.reconcile d.mode d.overwrite).value, d.permissions⟩,
        (WritePolicy.reconcile d.mode d.overwrite).log ++
          [{ level := .debug
             label := "Built credential request"
             fields := [("name", n.path), ("credential_type", (Payload.tag p).text)] }]⟩) ∨
    ((∀ n p, ¬ d.Complete n p) ∧ ∃ e, d.finish.run = ⟨.error e, []⟩ ∧
      (e.isInvalidArgument ∨ ∃ p, d.payload = some p ∧ Payload.validate p = .error e)) := by
  obtain ⟨name, payload, mode, overwrite, permissions⟩ := d
  cases name with
  | none => exact .inr ⟨fun n p h => (nomatch h.name), .invalidArgument _, rfl, .inl rfl⟩
  | some n =>
    cases payload with
    | none => exact .inr ⟨fun n p h => (nomatch h.payload), .invalidArgument _, rfl, .inl rfl⟩
    | some p =>
      cases hvalid : Payload.validate p with
      | error e =>
        refine .inr ⟨fun n' p' h => ?_, e, ?_, .inr ⟨p, rfl, hvalid⟩⟩
        · obtain rfl := Option.some.inj h.payload
          rw [h.valid] at hvalid
          cases hvalid
        · simp only [finish, hvalid]
          rfl
      | ok u =>
        by_cases hfield : Payload.field α = .parameters ∧ permissions ≠ []
        · refine .inr ⟨fun n' p' h => ?_, .invalidArgument .permissionsWithoutValue, ?_,
            .inl rfl⟩
          · rcases h.permitted with hvalue | hnone
            · rw [hvalue] at hfield
              cases hfield.1
            · exact hfield.2 hnone
          · simp only [finish, hvalid, if_pos hfield]
            rfl
        · refine .inl ⟨n, p, ⟨rfl, rfl, hvalid, ?_⟩, ?_⟩
          · cases hf : Payload.field α with
            | value => exact .inl rfl
            | parameters => exact .inr (Decidable.byContradiction fun h => hfield ⟨hf, h⟩)
          · simp only [finish, hvalid, if_neg hfield]
            -- the log of `reconcile` has to be a list in sight before the rest is put behind it
            cases mode <;> cases overwrite <;> rfl

variable {d : Draft α}

/-- There is an envelope for a complete draft, and for no other. -/
theorem build_eq_ok {e : Envelope α} : d.build = .ok e ↔ ∃ n p, d.Complete n p ∧
    e = ⟨n, p, (WritePolicy.reconcile d.mode d.overwrite).value, d.permissions⟩ := by
  unfold build
  rcases finish_cases d with ⟨n, p, hd, hrun⟩ | ⟨hno, why, hrun, -⟩
  · rw [hrun, Except.ok.injEq]
    refine ⟨fun h => ⟨n, p, hd, h.symm⟩, ?_⟩
    rintro ⟨n', p', hd', rfl⟩
    rw [Option.some.inj (hd.name.symm.trans hd'.name),
      Option.some.inj (hd.payload.symm.trans hd'.payload)]
  · rw [hrun]
    exact ⟨nofun, fun ⟨n, p, hd, _⟩ => absurd hd (hno n p)⟩

/-- What is refused is an argument, or breaks the rule of the payload. -/
theorem refused_of_build {e : Error} (h : d.build = .error e) :
    e.isInvalidArgument ∨ ∃ p, d.payload = some p ∧ Payload.validate p = .error e := by
  unfold build at h
  rcases finish_cases d with ⟨n, p, -, hrun⟩ | ⟨-, why, hrun, hwhy⟩
  · rw [hrun] at h
    cases h
  · rw [hrun] at h
    cases h
    exact hwhy

/-- A draft that is refused is refused without a word. -/
theorem buildLog_of_error {e : Error} (h : d.build = .error e) : d.buildLog = [] := by
  unfold build at h
  unfold buildLog
  rcases finish_cases d with ⟨n, p, -, hrun⟩ | ⟨-, why, hrun, -⟩
  · rw [hrun] at h
    cases h
  · rw [hrun]

end Draft

end Envelope

end CredStore
