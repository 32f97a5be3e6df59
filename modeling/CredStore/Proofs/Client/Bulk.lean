import CredStore.Proofs.Client.Answers
import CredStore.Proofs.Client.Responses
import Mathlib.Data.List.Forall2

/-!
# Calls that read a list

Some calls read a list from one member of the body. They give an entry for each item, in the order
of the items, or they refuse the whole body (`ReadsEach`): none is lost, moved or made up. The two
calls that ask for one thing by its name read the same list and give its first entry
(`ReadsFirst`). Both are shown for every body that is an object (`bulk_reads`).
-/

namespace CredStore

variable {α β : Type}

/-! ## Lists in bodies -/

/-- The items of a list. -/
def Json.items? : Json → Option (List Json)
  | .list js => some js
  | _ => none

namespace Members

/-- The items of the list under a key. -/
def items? (ms : Members) (key : String) : Option (List Json) :=
  (ms.get? key).bind Json.items?

/-- The items of the list under a key; there are none if the list is missing. -/
def itemsOrNone? (ms : Members) (key : String) : Option (List Json) :=
  ((ms.get? key).getD (.list [])).items?

end Members

theorem Json.items?_eq_some {j : Json} {js : List Json} : j.items? = some js ↔ j = .list js := by
  cases j with
  | list items => simp [items?]
  | _ => simp [items?]

/-- Each item is read as the entry at its place. -/
theorem forall₂_ok_iff {ε : Type} {f : Json → Except ε α} {js : List Json} {as : List α} :
    List.Forall₂ (fun j a => f j = .ok a) js as ↔ js.map f = as.map .ok := by
  rw [← List.forall₂_eq_eq_eq, List.forall₂_map_left_iff, List.forall₂_map_right_iff]

theorem Decoder.list_eq_ok_items {d : Decoder α} {j : Json} {as : List α} :
    list d j = .ok as ↔ ∃ js ∈ j.items?, List.Forall₂ (fun j a => d j = .ok a) js as := by
  simp only [list_eq_ok, Option.mem_def, Json.items?_eq_some, forall₂_ok_iff]

/-- A listing has an entry for each item. -/
theorem listing_eq_ok {ms : Members} (h : ms.keys.Nodup) {record key : String} {d : Decoder α}
    {as : List α} : listing record key d (.object ms) = .ok as ↔
      ∃ js ∈ ms.itemsOrNone? key, List.Forall₂ (fun j a => d j = .ok a) js as := by
  refine (Record.decoder_distinct_eq_ok h).trans ?_
  rw [Record.build_defaulted_eq_ok, Members.itemsOrNone?]
  cases ms.get? key with
  | none => simp [Json.items?]
  | some j => simp [Decoder.list_eq_ok_items]

/-- A history has an entry for each item. -/
theorem History.decoder_eq_ok [CredentialValue α] {ms : Members} (h : ms.keys.Nodup)
    {ds : List (Details α)} : decoder (.object ms) = .ok ⟨ds⟩ ↔
      ∃ js ∈ ms.items? "data", List.Forall₂ (fun j d => Details.ofDocument j = .ok d) js ds := by
  refine (Record.decoder_distinct_eq_ok h).trans ?_
  rw [Record.build_map, map_eq_ok, Members.items?]
  simp only [Record.build_required_eq_ok, Decoder.list_eq_ok_items, Details.decoder_eq_ok]
  cases ms.get? "data" with
  | none => simp
  | some j => simp

/-! ## Results of calls -/

namespace Client

/-- The result has what `f` reads from each item, in their order. If it refuses an item, or there
are no items to read, the body is refused. -/
structure ReadsEach {ε : Type} (f : Json → Except ε α) (items : Option (List Json))
    (result : Outcome (List α)) : Prop where
  ok_iff : ∀ as, result = .ok as ↔ ∃ js ∈ items, List.Forall₂ (fun j a => f j = .ok a) js as
  refused : ∀ js ∈ items, (∃ j ∈ js, ∃ e, f j = .error e) →
    ∃ e, result = .error e ∧ e.isDeserialization = true
  error : ∀ e, result = .error e → e.isDeserialization = true

/-- The result is the first entry of another result, and the body is refused if there is none. -/
structure ReadsFirst (all : Outcome (List α)) (result : Outcome α) : Prop where
  ok_iff : ∀ a, result = .ok a ↔ ∃ others, all = .ok (a :: others)
  error : ∀ e, result = .error e → e.isDeserialization = true

theorem ReadsEach.of_ok_iff {ε : Type} {f : Json → Except ε α} {items : Option (List Json)}
    {result : Outcome (List α)}
    (hok : ∀ as, result = .ok as ↔ ∃ js ∈ items, List.Forall₂ (fun j a => f j = .ok a) js as)
    (herror : ∀ e, result = .error e → e.isDeserialization = true) :
    ReadsEach f items result where
  ok_iff := hok
  refused := by
    rintro js hjs ⟨j, hj, e, he⟩
    cases hr : result with
    | error e' => exact ⟨e', rfl, herror e' hr⟩
    | ok as =>
      obtain ⟨js', hjs', has⟩ := (hok as).1 hr
      obtain rfl := Option.mem_unique hjs hjs'
      obtain ⟨a, ha⟩ := exists_map_eq_ok.1 ⟨as, forall₂_ok_iff.1 has⟩ j hj
      cases he.symm.trans ha
  error := herror

/-- A call that looks at the body gives what the body decodes to, or refuses it. -/
theorem run_of_next {c : Call β} (hc : ¬ c.Refused) (hbody : c.ignoresBody = false) {x : Exchange}
    {j : Json} (hx : x.next = .ok (some j)) :
    (∀ b, (c.run x).1 = .ok b ↔ c.Decodes j b) ∧
      ∀ e, (c.run x).1 = .error e → e.isDeserialization = true := by
  rcases operation_cases c with ⟨hrefused, -⟩ | ⟨-, op, hop⟩
  · exact absurd hrefused hc
  have hread := reads_operation hop hbody
  have hrun : (c.run x).1 = op.read (some j) := by
    unfold Call.run
    rw [hop]
    show x.next.bind op.read = _
    rw [hx, ok_bind]
  rw [hrun]
  exact ⟨fun b => hread.ok_iff, fun e => hread.error⟩

section

variable {ms : Members} {x : Exchange}

theorem history_reads [CredentialValue α] (h : ms.keys.Nodup)
    (hx : x.next = .ok (some (.object ms))) (name : Name) {versions : Nat} (hv : versions ≠ 0) :
    ReadsEach (Details.ofDocument : Json → Outcome (Details α)) (ms.items? "data")
      ((Call.history name versions).run x).1 := by
  obtain ⟨hok, herror⟩ := run_of_next (c := @Call.history α _ name versions) hv rfl hx
  exact .of_ok_iff (fun ds => (hok ds).trans (History.decoder_eq_ok h)) herror

/-- A call that reads a listing. -/
theorem listing_reads (h : ms.keys.Nodup) (hx : x.next = .ok (some (.object ms)))
    {c : Call (List α)} {record key : String} {d : Decoder α} (hc : ¬ c.Refused)
    (hbody : c.ignoresBody = false)
    (hdecodes : ∀ j as, c.Decodes j as ↔ listing record key d j = .ok as) :
    ReadsEach d (ms.itemsOrNone? key) (c.run x).1 := by
  obtain ⟨hok, herror⟩ := run_of_next hc hbody hx
  exact .of_ok_iff (fun as => (hok as).trans ((hdecodes _ as).trans (listing_eq_ok h))) herror

/-- Two calls on the same body, one of which gives the first entry of the other. -/
theorem first_reads (hx : x.next = .ok (some (.object ms))) {all : Call (List α)} {c : Call α}
    (hall : ¬ all.Refused) (hallBody : all.ignoresBody = false) (hc : ¬ c.Refused)
    (hbody : c.ignoresBody = false)
    (hdecodes : ∀ j a, c.Decodes j a ↔ ∃ others, all.Decodes j (a :: others)) :
    ReadsFirst (all.run x).1 (c.run x).1 := by
  obtain ⟨hok, herror⟩ := run_of_next hc hbody hx
  obtain ⟨hallOk, -⟩ := run_of_next hall hallBody hx
  refine ⟨fun a => (hok a).trans ((hdecodes _ a).trans ?_), herror⟩
  exact exists_congr fun others => (hallOk (a :: others)).symm

/-- **Lists are read item by item.** On a body that is an object, the history of a credential is
what its `data` hold, document by document, and the calls that search, or list paths or
certificates, give what their list holds, which may be missing. One item that is refused makes the
whole body refused. The newest version of a credential is the first of its history, and the
certificate with a name the first of the list. -/
theorem bulk_reads [CredentialValue α] (h : ms.keys.Nodup)
    (hx : x.next = .ok (some (.object ms))) :
    (∀ (name : Name) (versions : Nat), versions ≠ 0 →
      ReadsEach (Details.ofDocument : Json → Outcome (Details α)) (ms.items? "data")
        ((Call.history name versions).run x).1 ∧
      ∀ name' : Name, ReadsFirst ((@Call.history α _ name versions).run x).1
        ((Call.getByName name').run x).1) ∧
    (∀ text : String, ReadsEach Summary.decoder (ms.itemsOrNone? "credentials")
      ((Call.findByName text).run x).1) ∧
    (∀ path : String, ReadsEach Summary.decoder (ms.itemsOrNone? "credentials")
      ((Call.findByPath path).run x).1) ∧
    ReadsEach StorePath.decoder (ms.itemsOrNone? "paths") (Call.allPaths.run x).1 ∧
    ReadsEach Certificate.decoder (ms.itemsOrNone? "certificates") (Call.certificates.run x).1 ∧
    ∀ name : Name, ReadsFirst (Call.certificates.run x).1
      ((Call.certificateByName name).run x).1 := by
  refine ⟨fun name versions hv => ⟨history_reads h hx name hv, fun name' => ?_⟩, fun text => ?_,
    fun path => ?_, ?_, ?_, fun name => ?_⟩
  · exact first_reads hx hv rfl id rfl fun _ _ => Iff.rfl
  · exact listing_reads h hx id rfl fun _ _ => Iff.rfl
  · exact listing_reads h hx id rfl fun _ _ => Iff.rfl
  · exact listing_reads h hx id rfl fun _ _ => Iff.rfl
  · exact listing_reads h hx id rfl fun _ _ => Iff.rfl
  · exact first_reads hx id rfl id rfl fun _ _ => Iff.rfl

/-- A body with one document and one item that is none. -/
def halfRead : Members :=
  [("data", .list [.object [("name", .text "/a"), ("type", .text "value"), ("value", .text "v")],
    .null])]

/-- What could be read of the body is not given either. -/
theorem bulk_reads_halfRead : halfRead.keys.Nodup ∧
    ∀ name : Name, ∃ e, ((@Call.history PlainValue _ name 2).run
      { pending := [.ok (some (.object halfRead))] }).1 = .error e ∧
        e.isDeserialization = true := by
  have hkeys : halfRead.keys.Nodup := by decide
  refine ⟨hkeys, fun name => ?_⟩
  have hreads := (bulk_reads (α := PlainValue) (x := { pending := [.ok (some (.object halfRead))] })
    hkeys rfl).1 name 2 (by decide)
  exact hreads.1.refused _ rfl ⟨.null, by simp, _, rfl⟩

end

end Client

end CredStore
