import CredStore.Error

/-!
# What decoders accept

A chain of computations succeeds when each link does (`bind_eq_ok`, `map_eq_ok`, `mapM_eq_ok`) and
fails as its first link that fails (`bind_eq_error`, `mapM_eq_error`). A decoder with a rule accepts
what the decoder accepts and the rule lets pass (`Decoder.ruled_eq_ok`).
-/

namespace CredStore

section Except

variable {ε ε' α β : Type} {x : Except ε α} {e : ε}

/-! ## Chains -/

@[simp] theorem ok_bind {a : α} {f : α → Except ε β} : (Except.ok a).bind f = f a := rfl

@[simp] theorem error_bind {f : α → Except ε β} : (Except.error e).bind f = .error e := rfl

@[simp] theorem map_ok {a : α} {f : α → β} : (Except.ok a : Except ε α).map f = .ok (f a) := rfl

@[simp] theorem map_error {f : α → β} : (Except.error e).map f = .error e := rfl

@[simp] theorem mapError_ok {a : α} {f : ε → ε'} : (Except.ok a).mapError f = .ok a := rfl

@[simp] theorem mapError_error {f : ε → ε'} :
    (Except.error e : Except ε α).mapError f = .error (f e) := rfl

theorem bind_eq_ok {f : α → Except ε β} {b : β} :
    x.bind f = .ok b ↔ ∃ a, x = .ok a ∧ f a = .ok b := by
  cases x with
  | ok a => simp
  | error e => simp

theorem bind_eq_error {f : α → Except ε β} :
    x.bind f = .error e ↔ x = .error e ∨ ∃ a, x = .ok a ∧ f a = .error e := by
  cases x with
  | ok a => simp
  | error e' => simp

theorem map_eq_ok {f : α → β} {b : β} : x.map f = .ok b ↔ ∃ a, x = .ok a ∧ f a = b := by
  cases x with
  | ok a => simp
  | error e => simp

theorem map_eq_error {f : α → β} : x.map f = .error e ↔ x = .error e := by
  cases x with
  | ok a => simp
  | error e' => simp

theorem mapError_eq_ok {f : ε → ε'} {a : α} : x.mapError f = .ok a ↔ x = .ok a := by
  cases x with
  | ok b => simp
  | error e => simp

theorem mapError_eq_error {f : ε → ε'} {e' : ε'} :
    x.mapError f = .error e' ↔ ∃ e, x = .error e ∧ f e = e' := by
  cases x with
  | ok a => simp
  | error e => simp

/-- A list is computed when each of its members is. -/
theorem mapM_eq_ok {f : α → Except ε β} {as : List α} {bs : List β} :
    as.mapM f = .ok bs ↔ as.map f = bs.map .ok := by
  induction as generalizing bs with
  | nil => cases bs <;> simp [pure, Except.pure]
  | cons a as ih =>
    rw [List.mapM_cons]
    show (f a).bind (fun b => (as.mapM f).bind fun bs => .ok (b :: bs)) = .ok bs ↔ _
    simp only [bind_eq_ok, ih]
    cases bs with
    | nil => simp
    | cons b bs => simp [and_left_comm]

/-- A member with `Q` behind members with `P` is the head, or it is one of the tail and the head is
a member with `P`. -/
theorem exists_first_cons {P Q : α → Prop} {a : α} {as : List α} :
    (∃ before b after, a :: as = before ++ b :: after ∧ (∀ c ∈ before, P c) ∧ Q b) ↔
      Q a ∨ P a ∧ ∃ before b after, as = before ++ b :: after ∧ (∀ c ∈ before, P c) ∧ Q b := by
  constructor
  · rintro ⟨before, b, after, h, hbefore, hb⟩
    cases before with
    | nil =>
      obtain ⟨rfl, rfl⟩ := List.cons.inj h
      exact .inl hb
    | cons c before =>
      obtain ⟨rfl, rfl⟩ := List.cons.inj h
      obtain ⟨hc, hbefore⟩ := List.forall_mem_cons.1 hbefore
      exact .inr ⟨hc, before, b, after, rfl, hbefore, hb⟩
  · rintro (ha | ⟨ha, before, b, after, rfl, hbefore, hb⟩)
    · exact ⟨[], a, as, rfl, nofun, ha⟩
    · exact ⟨a :: before, b, after, rfl, List.forall_mem_cons.2 ⟨ha, hbefore⟩, hb⟩

theorem exists_map_eq_ok {f : α → Except ε β} {as : List α} :
    (∃ bs : List β, as.map f = bs.map .ok) ↔ ∀ a ∈ as, ∃ b, f a = .ok b := by
  induction as with
  | nil => exact ⟨fun _ => nofun, fun _ => ⟨[], rfl⟩⟩
  | cons a as ih =>
    rw [List.forall_mem_cons, ← ih]
    refine ⟨?_, ?_⟩
    · rintro ⟨bs, h⟩
      cases bs with
      | nil => cases h
      | cons b bs =>
        obtain ⟨hb, hbs⟩ := List.cons_eq_cons.1 h
        exact ⟨⟨b, hb⟩, bs, hbs⟩
    · rintro ⟨⟨b, hb⟩, bs, hbs⟩
      exact ⟨b :: bs, by rw [List.map_cons, List.map_cons, hb, hbs]⟩

end Except

/-! ## Decoders -/

namespace Decoder

variable {α β : Type}

theorem text_eq_ok {j : Json} {s : String} : text j = .ok s ↔ j = .text s := by
  refine ⟨fun h => ?_, fun h => by rw [h]; rfl⟩
  cases j <;> cases h
  rfl

theorem members_eq_ok {j : Json} {ms : Members} : members j = .ok ms ↔ j = .object ms := by
  refine ⟨fun h => ?_, fun h => by rw [h]; rfl⟩
  cases j <;> cases h
  rfl

theorem list_eq_ok {d : Decoder α} {j : Json} {as : List α} :
    list d j = .ok as ↔ ∃ js, j = .list js ∧ js.map d = as.map .ok := by
  cases j with
  | list js => simp [list, mapM_eq_ok]
  | _ => simp [list]

/-- An optional value is read from null, or as the value that it is. -/
theorem option_eq_ok {d : Decoder α} {j : Json} {o : Option α} :
    option d j = .ok o ↔ (j = .null ∧ none = o) ∨ j ≠ .null ∧ ∃ a, d j = .ok a ∧ some a = o := by
  cases j with
  | null => simp [option]
  | _ => simp [option, map_eq_ok]

theorem ruled_eq_ok {d : Decoder α} {rule : α → Outcome β} {j : Json} {b : β} :
    d.ruled rule j = .ok b ↔ ∃ a, d j = .ok a ∧ rule a = .ok b := by
  unfold ruled checked
  cases d j with
  | ok a => simp [mapError_eq_ok]
  | error e => simp

theorem ruled_congr {d : Decoder α} {rule : α → Outcome β} {j j' : Json} (h : d j = d j') :
    d.ruled rule j = d.ruled rule j' := by
  unfold ruled checked
  rw [h]

end Decoder

end CredStore
