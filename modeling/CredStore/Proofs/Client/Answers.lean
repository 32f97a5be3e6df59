import CredStore.Client.Call
import CredStore.Proofs.Details.Dispatch

/-!
# What a call makes of a response

`Call.Answers` says which results a call may have on a response: a failure of the transport is
the result, three of the calls do not look at the body, and every other call gives the value that
the body decodes to (`Call.Decodes`) or refuses the body as a document of the server. Every call
whose arguments are not refused answers so (`operation_cases`).
-/

namespace CredStore.Client

variable {α β : Type}

namespace Call

/-- The arguments are refused: no versions are asked for, or no permission is given. -/
def Refused : {β : Type} → Call β → Prop
  | _, @history _ _ _ versions => versions = 0
  | _, .addBatch _ permissions => permissions = []
  | _, _ => False

/-- The result does not depend on the body of the response. -/
def ignoresBody : {β : Type} → Call β → Bool
  | _, .deleteByName _ => true
  | _, .addBatch _ _ => true
  | _, .deleteFromBatch _ _ => true
  | _, _ => false

/-- The value that a body stands for as the answer to a call. -/
def Decodes : {β : Type} → Call β → Json → β → Prop
  | _, @write _ _ _ _, j, d => Details.ofDocument j = .ok d
  | _, @generate _ _ _ _ _ _, j, d => Details.ofDocument j = .ok d
  | _, @regenerate _ _ _, j, d => Details.ofDocument j = .ok d
  | _, @getById _ _ _, j, d => Details.ofDocument j = .ok d
  | _, @getByName _ _ _, j, d => ∃ older, History.decoder j = .ok ⟨d :: older⟩
  | _, @history _ _ _ _, j, ds => History.decoder j = .ok ⟨ds⟩
  | _, .findByName _, j, ss => Summary.listDecoder j = .ok ss
  | _, .findByPath _, j, ss => Summary.listDecoder j = .ok ss
  | _, .allPaths, j, ps => StorePath.listDecoder j = .ok ps
  | _, .deleteByName _, _, _ => True
  | _, .batchPermissions _, j, ps => ∃ name, PermissionBatch.decoder j = .ok ⟨name, ps⟩
  | _, .addBatch _ _, _, _ => True
  | _, .deleteFromBatch _ _, _, _ => True
  | _, .permission _, j, p => AddressedPermission.decoder j = .ok p
  | _, .findPermission _ _, j, p => AddressedPermission.decoder j = .ok p
  | _, .addPermission _, j, p => AddressedPermission.decoder j = .ok p
  | _, .updatePermission _ _, j, p => AddressedPermission.decoder j = .ok p
  | _, .deletePermission _, j, p => AddressedPermission.decoder j = .ok p
  | _, .certificates, j, cs => Certificate.listDecoder j = .ok cs
  | _, .certificateByName _, j, c => ∃ others, Certificate.listDecoder j = .ok (c :: others)
  | _, .regenerateCertificate _ _, j, d => Details.ofDocument j = .ok d
  | _, .regenerateSigned _, j, names => Regenerated.decoder j = .ok names
  | _, .setTransitional _ _, j, vs => Decoder.list CertificateVersion.decoder j = .ok vs
  | _, .interpolate _, j, s => Services.decoder j = .ok s
  | _, .version, j, v => ServerVersion.decoder j = .ok v

/-- What a call may make of a response. -/
inductive Answers (c : Call β) : Response → Outcome β → Prop
  | failed (e : Error) : Answers c (.error e) (.error e)
  | done (body : Option Json) (b : β) : c.ignoresBody = true → Answers c (.ok body) (.ok b)
  | empty (e : Error) : c.ignoresBody = false → e.isDeserialization = true →
    Answers c (.ok none) (.error e)
  | decoded (j : Json) (b : β) : c.ignoresBody = false → c.Decodes j b →
    Answers c (.ok (some j)) (.ok b)
  | undecodable (j : Json) (e : Error) : c.ignoresBody = false → (∀ b, ¬ c.Decodes j b) →
    e.isDeserialization = true → Answers c (.ok (some j)) (.error e)

end Call

/-! ## Reading bodies -/

/-- An operation gives the values that `R` relates to a body, and refuses as a document of the
server whatever has none. -/
structure Reads (op : Operation α) (R : Json → α → Prop) : Prop where
  none : ∃ e, op.read none = .error e ∧ e.isDeserialization = true
  ok_iff : ∀ {j a}, op.read (some j) = .ok a ↔ R j a
  error : ∀ {j e}, op.read (some j) = .error e → e.isDeserialization = true

theorem reads_decoding (name : String) (request : Request) (d : Decoder α) :
    Reads (.decoding name request d) fun j a => d j = .ok a where
  none := ⟨_, rfl, rfl⟩
  ok_iff := mapError_eq_ok
  error h := by
    obtain ⟨why, -, rfl⟩ := mapError_eq_error.1 h
    rfl

theorem reads_reading (name : String) (request : Request) {f : Json → Outcome α}
    (hf : ∀ {j e}, f j = .error e → e.isDeserialization = true) :
    Reads (.reading name request f) fun j a => f j = .ok a where
  none := ⟨_, rfl, rfl⟩
  ok_iff := Iff.rfl
  error := hf

theorem Reads.andThen {op : Operation α} {R : Json → α → Prop} (h : Reads op R)
    {f : α → Outcome β} (hf : ∀ {a e}, f a = .error e → e.isDeserialization = true) :
    Reads (op.andThen f) fun j b => ∃ a, R j a ∧ f a = .ok b where
  none := by
    obtain ⟨e, he, hd⟩ := h.none
    exact ⟨e, bind_eq_error.2 (.inl he), hd⟩
  ok_iff := by
    intro j b
    refine bind_eq_ok.trans (exists_congr fun a => ?_)
    rw [h.ok_iff]
  error := by
    intro j e he
    rcases bind_eq_error.1 he with he | ⟨a, -, he⟩
    · exact h.error he
    · exact hf he

theorem Reads.congr {op : Operation α} {R S : Json → α → Prop} (h : Reads op R)
    (hRS : ∀ j a, R j a ↔ S j a) : Reads op S where
  none := h.none
  ok_iff := h.ok_iff.trans (hRS _ _)
  error := h.error

/-- The result is read further by a function that always gives one. -/
theorem Reads.map {op : Operation α} {R : Json → α → Prop} (h : Reads op R) (f : α → β) :
    Reads (op.andThen fun a => .ok (f a)) fun j b => ∃ a, R j a ∧ f a = b := by
  refine (h.andThen fun he => ?_).congr fun j b => ?_
  · cases he
  · simp

/-- The result is the first of a list, which must not be empty. -/
theorem Reads.first {op : Operation α} {R : Json → α → Prop} (h : Reads op R) (l : α → List β)
    (why : Mismatch) : Reads (op.andThen fun a => Operation.firstOf why (l a))
      fun j b => ∃ a rest, R j a ∧ l a = b :: rest := by
  refine (h.andThen fun {a e} he => ?_).congr fun j b => exists_congr fun a => ?_
  · cases hl : l a with
    | nil => rw [hl] at he; cases he; rfl
    | cons b rest => rw [hl] at he; cases he
  · cases l a with
    | nil => simp [Operation.firstOf, mismatch]
    | cons b' rest => simp [Operation.firstOf]

/-- What an operation reads is an answer to the call that it serves. -/
theorem Reads.answers {c : Call β} {op : Operation β} (h : Reads op c.Decodes)
    (hc : c.ignoresBody = false) (body : Option Json) : c.Answers (.ok body) (op.read body) := by
  cases body with
  | none =>
    obtain ⟨e, he, hd⟩ := h.none
    rw [he]
    exact .empty e hc hd
  | some j =>
    cases hr : op.read (some j) with
    | ok b => exact .decoded j b hc (h.ok_iff.1 hr)
    | error e =>
      refine .undecodable j e hc (fun b hb => ?_) (h.error hr)
      cases hr.symm.trans (h.ok_iff.2 hb)

/-! ## Calls -/

/-- The operation of a history that is not refused. -/
theorem operation_history [CredentialValue α] {name : Name} {versions : Nat}
    {op : Operation (List (Details α))} (h : (Call.history name versions).operation = .ok op) :
    op = (Operation.decoding "get_by_name_with_history"
      (.on .get .dataVersionsByName [name.path, toString versions])
        History.decoder).andThen fun h => .ok h.versions := by
  simp only [Call.operation, Credentials.history] at h
  split at h
  · cases h
  · exact (Except.ok.inj h).symm

/-- The operation of a batch of permissions that is not refused. -/
theorem operation_addBatch {name : Name} {permissions : List Permission} {op : Operation Unit}
    (h : (Call.addBatch name permissions).operation = .ok op) :
    op = .ignoring "add_permissions"
      (.on .post .permissionsV1 [] (some (PermissionBatch.mk name permissions).toJson.sorted)) := by
  simp only [Call.operation, BatchPermissions.add] at h
  split at h
  · cases h
  · exact (Except.ok.inj h).symm

/-- A call that looks at the body gives what the body decodes to. -/
theorem reads_operation {c : Call β} {op : Operation β} (h : c.operation = .ok op)
    (hc : c.ignoresBody = false) : Reads op c.Decodes := by
  cases c with
  | write | generate | regenerate | getById | regenerateCertificate =>
    cases h
    exact reads_reading _ _ Details.isDeserialization_of_ofDocument
  | getByName name =>
    cases h
    refine ((reads_decoding _ _ _).first History.versions _).congr fun j d => ⟨?_, ?_⟩
    · rintro ⟨⟨_⟩, older, hj, rfl⟩
      exact ⟨older, hj⟩
    · exact fun ⟨older, hj⟩ => ⟨⟨d :: older⟩, older, hj, rfl⟩
  | certificateByName name =>
    cases h
    refine ((reads_decoding _ _ _).first id _).congr fun j c => ⟨?_, ?_⟩
    · rintro ⟨_, others, hj, rfl⟩
      exact ⟨others, hj⟩
    · exact fun ⟨others, hj⟩ => ⟨c :: others, others, hj, rfl⟩
  | history name versions =>
    obtain rfl := operation_history h
    refine ((reads_decoding _ _ _).map History.versions).congr fun j ds => ⟨?_, ?_⟩
    · rintro ⟨⟨_⟩, hj, rfl⟩
      exact hj
    · exact fun hj => ⟨⟨ds⟩, hj, rfl⟩
  | batchPermissions name =>
    cases h
    refine ((reads_decoding _ _ _).map PermissionBatch.permissions).congr fun j ps => ⟨?_, ?_⟩
    · rintro ⟨⟨n, _⟩, hj, rfl⟩
      exact ⟨n, hj⟩
    · exact fun ⟨n, hj⟩ => ⟨⟨n, ps⟩, hj, rfl⟩
  | deleteByName | addBatch | deleteFromBatch => cases hc
  | _ =>
    cases h
    exact reads_decoding _ _ _

/-- A call that does not look at the body succeeds. -/
theorem read_of_ignoresBody {c : Call β} {op : Operation β} (h : c.operation = .ok op)
    (hc : c.ignoresBody = true) (body : Option Json) : ∃ b, op.read body = .ok b := by
  cases c with
  | deleteByName | deleteFromBatch =>
    cases h
    exact ⟨(), rfl⟩
  | addBatch name permissions =>
    obtain rfl := operation_addBatch h
    exact ⟨(), rfl⟩
  | _ => cases hc

/-- **Whatever body comes back, the call answers it.** -/
theorem answers_read {c : Call β} {op : Operation β} (h : c.operation = .ok op)
    (body : Option Json) : c.Answers (.ok body) (op.read body) := by
  cases hc : c.ignoresBody with
  | true =>
    obtain ⟨b, hb⟩ := read_of_ignoresBody h hc body
    rw [hb]
    exact .done body b hc
  | false => exact (reads_operation h hc).answers hc body

/-- The arguments of a call are refused, or it has an operation. -/
theorem operation_cases (c : Call β) :
    (c.Refused ∧ ∃ why, c.operation = .error (.invalidArgument why)) ∨
      (¬ c.Refused ∧ ∃ op, c.operation = .ok op) := by
  cases c with
  | history name versions =>
    simp only [Call.operation, Credentials.history]
    split
    · rename_i h
      exact .inl ⟨h, _, rfl⟩
    · rename_i h
      exact .inr ⟨h, _, rfl⟩
  | addBatch name permissions =>
    simp only [Call.operation, BatchPermissions.add]
    split
    · rename_i h
      exact .inl ⟨h, _, rfl⟩
    · rename_i h
      exact .inr ⟨h, _, rfl⟩
  | _ => exact .inr ⟨id, _, rfl⟩

end CredStore.Client
