import CredStore.Proofs.Json.Record
import Mathlib.Logic.Relator

/-!
# Decoding without a look at the texts

`Json.blanked` empties every text of a document, so two documents with the same blanked form have
the same structure, keys, numbers and truth values. A decoder is `Blind` when it makes the same of a
document and of its blanked form: it accepts both, or it refuses both for the same cause. What it
makes of them need not be equal; a relation says what they share, and between functions it takes
related arguments to related results, so that it passes through a record field by field
(`Record.AgreeOn.seq`). A record is read blindly below the top of its document
(`Record.Blind.decoder`).
-/

namespace CredStore

/-! ## Blanked documents -/

namespace Json

mutual

/-- The document with every text in it emptied. -/
def blanked : Json → Json
  | .text _ => .text ""
  | .list items => .list (blankedItems items)
  | .object members => .object (blankedMembers members)
  | .null => .null
  | .bool b => .bool b
  | .number n => .number n

/-- Each item blanked. -/
def blankedItems : List Json → List Json
  | [] => []
  | j :: rest => blanked j :: blankedItems rest

/-- The value of each member blanked; the keys stay. -/
def blankedMembers : List (String × Json) → List (String × Json)
  | [] => []
  | (k, j) :: rest => (k, blanked j) :: blankedMembers rest

end

theorem blankedItems_eq_map (items : List Json) : blankedItems items = items.map blanked := by
  induction items with
  | nil => rfl
  | cons j rest ih => rw [blankedItems, ih, List.map_cons]

/-- A text stays one when it is blanked, and nothing else becomes one. -/
theorem exists_blanked_eq_text_iff {j : Json} :
    (∃ s, j.blanked = .text s) ↔ ∃ s, j = .text s := by
  cases j <;> simp [blanked]

end Json

theorem Members.get?_blankedMembers (ms : List (String × Json)) (key : String) :
    get? (Json.blankedMembers ms) key = (get? ms key).map Json.blanked := by
  induction ms with
  | nil => rfl
  | cons m rest ih =>
    rw [Json.blankedMembers, get?_cons, get?_cons, ih]
    by_cases h : key = m.1 <;> simp [h]

namespace Source

/-- The fields of the blanked document. -/
def blanked : Source → Source
  | .members ms => .members (Json.blankedMembers ms)
  | .items js record arity => .items (Json.blankedItems js) record arity

theorem field?_blanked (s : Source) (i : Nat) (key : String) :
    s.blanked.field? i key = (s.field? i key).map Json.blanked := by
  cases s with
  | members ms => exact Members.get?_blankedMembers ms key
  | items js record arity => simp [blanked, field?, Json.blankedItems_eq_map]

theorem missing_blanked (s : Source) (i : Nat) (key : String) :
    s.blanked.missing i key = s.missing i key := by
  cases s <;> rfl

end Source

/-! ## Computations that agree -/

/-- Both computations succeed, with results that `R` relates, or both fail with the same error. -/
inductive Agree {ε α : Type} (R : α → α → Prop) : Except ε α → Except ε α → Prop
  | ok {a b : α} : R a b → Agree R (.ok a) (.ok b)
  | error (e : ε) : Agree R (.error e) (.error e)

/-- Any two results are related. -/
abbrev Anything {α : Type} : α → α → Prop := fun _ _ => True

/-- Both are there or neither is. -/
abbrev SameSet {α : Type} : Option α → Option α → Prop := fun o p => o.isSome = p.isSome

namespace Agree

variable {ε ε' α β : Type} {R : α → α → Prop} {S : β → β → Prop} {x y z : Except ε α}

theorem refl (hR : ∀ a, R a a) : Agree R x x := by
  cases x with
  | ok a => exact .ok (hR a)
  | error e => exact .error e

theorem bind {f g : α → Except ε β} (h : Agree R x y)
    (hfg : ∀ a b, R a b → Agree S (f a) (g b)) : Agree S (x.bind f) (y.bind g) := by
  cases h with
  | ok hab => exact hfg _ _ hab
  | error e => exact .error e

theorem map {f g : α → β} (h : Agree R x y) (hfg : ∀ a b, R a b → S (f a) (g b)) :
    Agree S (x.map f) (y.map g) := by
  cases h with
  | ok hab => exact .ok (hfg _ _ hab)
  | error e => exact .error e

theorem mapError {f : ε → ε'} (h : Agree R x y) : Agree R (x.mapError f) (y.mapError f) := by
  cases h with
  | ok hab => exact .ok hab
  | error e => exact .error (f e)

theorem trans_symm (h : Agree Anything x z) (h' : Agree Anything y z) : Agree Anything x y := by
  cases h with
  | ok _ => cases h' with | ok _ => exact .ok trivial
  | error e => cases h' with | error _ => exact .error e

theorem eq_map {f : α → α} (h : Agree (fun a b => b = f a) x y) : y = x.map f := by
  cases h with
  | ok hab => rw [hab, map_ok]
  | error e => rfl

theorem ruled {d : Decoder α} {rule : α → Outcome β} {j j' : Json} (h : Agree R (d j) (d j'))
    (hrule : ∀ a b, R a b → Agree S (rule a) (rule b)) :
    Agree S (d.ruled rule j) (d.ruled rule j') := by
  have hchecked : ∀ j, d.ruled rule j =
      (d j).bind fun a => ((rule a).mapError Error.message).mapError .refused := by
    intro j
    unfold Decoder.ruled Decoder.checked
    cases d j <;> rfl
  rw [hchecked, hchecked]
  exact h.bind fun a b hab => (hrule a b hab).mapError.mapError

end Agree

namespace Record

variable {α β : Type} {R : α → α → Prop} {S : β → β → Prop} {s s' : Source} {key : String}

/-- What is built of a record from two sources agrees, wherever its first field is. -/
def AgreeOn (R : α → α → Prop) (r : Record α) (s s' : Source) : Prop :=
  ∀ i, Agree R (r.build s i) (r.build s' i)

theorem AgreeOn.seq {f : Record (α → β)} {x : Record α} (hf : f.AgreeOn (Relator.LiftFun R S) s s')
    (hx : x.AgreeOn R s s') : (f <*> x).AgreeOn S s s' :=
  fun i => (hf i).bind fun _ _ hg => (hx _).map fun _ _ hab => hg hab

theorem AgreeOn.map {f : α → β} {x : Record α} (hx : x.AgreeOn R s s')
    (hf : Relator.LiftFun R S f f) : (f <$> x).AgreeOn S s s' :=
  fun i => (hx i).map fun _ _ hab => hf hab

theorem agreeOn_field {d : Decoder α} {absent : Source → Nat → Except DecodeError α}
    {ms ms' : Members} (h : ms.get? key = ms'.get? key)
    (habsent : ∀ i, absent (.members ms) i = absent (.members ms') i) :
    (field key d absent).AgreeOn Eq (.members ms) (.members ms') := by
  intro i
  have hbuild : (field key d absent).build (.members ms) i =
      (field key d absent).build (.members ms') i := by
    simp only [field, Source.field?, h, habsent]
  rw [hbuild]
  exact .refl fun _ => rfl

end Record

/-! ## Blind decoders -/

/-- The decoder makes the same of a document and of its blanked form, up to `R`. -/
def Decoder.Blind {α : Type} (R : α → α → Prop) (d : Decoder α) : Prop :=
  ∀ j, Agree R (d j) (d j.blanked)

namespace Decoder

variable {α β : Type} {R : α → α → Prop} {S : β → β → Prop} {d : Decoder α}

theorem text_blind : text.Blind Anything := fun j => by
  cases j with
  | text s => exact .ok trivial
  | null | bool | number | list | object => exact .error _

theorem members_agree {j : Json} (h : ∀ s, j ≠ .text s) :
    Agree Anything (members j) (members j.blanked) := by
  cases j with
  | object ms => exact .ok trivial
  | text s => exact absurd rfl (h s)
  | null | bool | number | list => exact .error _

theorem Blind.map {f : α → β} (h : d.Blind R) (hf : ∀ a b, R a b → S (f a) (f b)) :
    Blind S fun j => (d j).map f :=
  fun j => (h j).map hf

theorem Blind.option (h : d.Blind R) : (option d).Blind SameSet := fun j => by
  cases j with
  | null => exact .ok rfl
  | bool | number | text | list | object => exact (h _).map fun _ _ _ => rfl

end Decoder

/-! ## Blind records -/

namespace Record

variable {α β : Type} {R : α → α → Prop} {S : β → β → Prop} {key name : String}

/-- A document and its blanked form are checked alike, and what is built from them agrees. -/
structure Blind (R : α → α → Prop) (r : Record α) : Prop where
  check : ∀ k j, Agree Anything (r.check k j) (r.check k j.blanked)
  build : ∀ s, r.AgreeOn R s s.blanked

theorem Blind.seq {f : Record (α → β)} {x : Record α} (hf : f.Blind (Relator.LiftFun R S))
    (hx : x.Blind R) : (f <*> x).Blind S where
  check k j := (hf.check k j).bind fun _ _ _ => hx.check k j
  build s := (hf.build s).seq (hx.build s)

theorem Blind.map {f : α → β} {x : Record α} (hx : x.Blind R) (hf : Relator.LiftFun R S f f) :
    (f <$> x).Blind S where
  check := hx.check
  build s := (hx.build s).map hf

theorem Blind.field {d : Decoder α} {absent : Source → Nat → Except DecodeError α}
    (hd : d.Blind R) (habsent : ∀ s i, Agree R (absent s i) (absent s.blanked i)) :
    (field key d absent).Blind R where
  check k j := by
    simp only [Record.field]
    split
    · exact (hd j).map fun _ _ _ => trivial
    · exact .ok trivial
  build s i := by
    simp only [Record.field, Source.field?_blanked]
    cases s.field? i key with
    | some j => exact hd j
    | none => exact habsent s i

theorem Blind.required {d : Decoder α} (hd : d.Blind R) : (required key d).Blind R :=
  .field hd fun s i => s.missing_blanked i key ▸ .error _

theorem Blind.optional {d : Decoder α} (hd : d.Blind R) : (optional key d).Blind SameSet :=
  .field hd.option fun s i => by
    cases s with
    | members ms => exact .ok rfl
    | items js record arity => exact .error _

theorem Blind.checkAll {r : Record α} (hr : r.Blind R) (ms : Members) :
    Agree Anything (r.checkAll ms) (r.checkAll (Json.blankedMembers ms)) := by
  induction ms with
  | nil => exact .ok trivial
  | cons m rest ih =>
    obtain ⟨k, j⟩ := m
    exact (hr.check k j).bind fun _ _ _ => ih

/-- Below its top, a document is read as a blind record without a look at the texts. -/
theorem Blind.decoder {r : Record α} (hr : r.Blind R) {j : Json} (hj : ∀ s, j ≠ .text s) :
    Agree R (r.decoder name j) (r.decoder name j.blanked) := by
  cases j with
  | object ms => exact (hr.checkAll ms).bind fun _ _ _ => hr.build (.members ms) 0
  | list js =>
    -- what is read of too long a list is dropped in both
    refine (hr.build (.items js name r.arity) 0).bind fun a b hab => ?_
    rw [Json.blankedItems_eq_map, List.length_map]
    split
    · exact .error _
    · exact .ok hab
  | text s => exact absurd rfl (hj s)
  | null | bool | number => exact .error _

end Record

end CredStore
