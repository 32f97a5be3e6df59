import CredStore.Proofs.Client.Answers

/-!
# Transcripts of sessions

A call whose arguments are refused leaves the exchange as it is; every other call sends one request
and takes one response, which it answers (`run_cases`). So over a whole session the requests are
sent in order, each takes the next response, and no result depends on any other (`transcript`).
-/

namespace CredStore.Client

variable {β : Type}

/-! ## One call -/

/-- What a run of one call does. -/
theorem run_cases (c : Call β) (x : Exchange) :
    (c.Refused ∧ c.request? = none ∧ (∃ why, (c.run x).1 = .error (.invalidArgument why)) ∧
      (c.run x).2 = x) ∨
    (¬ c.Refused ∧ ∃ q, c.request? = some q ∧ (c.run x).2.sent = x.sent ++ [q] ∧
      (c.run x).2.pending = x.pending.tail ∧ c.Answers x.next (c.run x).1) := by
  unfold Call.request? Call.run
  rcases operation_cases c with ⟨hc, why, ho⟩ | ⟨hc, op, ho⟩
  · rw [ho]
    exact .inl ⟨hc, rfl, ⟨why, rfl⟩, rfl⟩
  · rw [ho]
    refine .inr ⟨hc, op.request, rfl, rfl, rfl, ?_⟩
    show c.Answers x.next (x.next.bind op.read)
    cases x.next with
    | error e => exact .failed e
    | ok body => exact answers_read ho body

theorem request?_eq_none_iff {c : Call β} : c.request? = none ↔ c.Refused := by
  rcases run_cases c {} with ⟨hc, hq, -⟩ | ⟨hc, q, hq, -⟩
  · exact ⟨fun _ => hc, fun _ => hq⟩
  · rw [hq]
    exact ⟨(fun h => nomatch h), fun h => absurd h hc⟩

/-- A failure is that of the transport, or a document of the server was refused. -/
theorem Call.Answers.error {c : Call β} {response : Response} {e : Error}
    (h : c.Answers response (.error e)) : response = .error e ∨ e.isDeserialization = true := by
  cases h with
  | failed => exact .inl rfl
  | empty _ _ he => exact .inr he
  | undecodable _ _ _ _ he => exact .inr he

/-! ## Sessions -/

namespace AnyCall

theorem runAll_cons (c : AnyCall) (cs : List AnyCall) (x : Exchange) :
    runAll (c :: cs) x =
      ((c.run x).1 :: (runAll cs (c.run x).2).1, (runAll cs (c.run x).2).2) := rfl

theorem toAnyCall_runAll (cs : List AnyCall) (x : Exchange) :
    (runAll cs x).1.map Reply.toAnyCall = cs := by
  induction cs generalizing x with
  | nil => rfl
  | cons c cs ih =>
    rw [runAll_cons, List.map_cons, ih]
    rfl

theorem requests_cons (c : AnyCall) (cs : List AnyCall) :
    requests (c :: cs) = c.call.request?.toList ++ requests cs := by
  unfold requests
  rw [List.filterMap_cons]
  cases c.call.request? <;> rfl

/-- One call sends its request, if it has one, and takes as many responses. -/
theorem run_exchange (c : AnyCall) (x : Exchange) :
    (c.run x).2.sent = x.sent ++ c.call.request?.toList ∧
      (c.run x).2.pending = x.pending.drop c.call.request?.toList.length := by
  rcases run_cases c.call x with ⟨-, hq, -, hx⟩ | ⟨-, q, hq, hsent, hpending, -⟩
  · have hrun : (c.run x).2 = x := hx
    rw [hrun, hq]
    simp
  · rw [hq]
    exact ⟨hsent, hpending.trans List.drop_one.symm⟩

/-- A session sends the requests in order, and takes as many responses. -/
theorem runAll_exchange (cs : List AnyCall) (x : Exchange) :
    (runAll cs x).2.sent = x.sent ++ requests cs ∧
      (runAll cs x).2.pending = x.pending.drop (requests cs).length := by
  induction cs generalizing x with
  | nil => exact ⟨(List.append_nil _).symm, rfl⟩
  | cons c cs ih =>
    obtain ⟨hsent, hpending⟩ := run_exchange c x
    obtain ⟨ihsent, ihpending⟩ := ih (c.run x).2
    rw [runAll_cons, requests_cons]
    refine ⟨?_, ?_⟩
    · rw [ihsent, hsent, List.append_assoc]
    · rw [ihpending, hpending, List.drop_drop, List.length_append]

/-- The response that a call takes when the calls before it are `before`. -/
def response (before : List AnyCall) (x : Exchange) : Response :=
  x.pending[(requests before).length]?.getD Exchange.exhausted

theorem next_runAll (cs : List AnyCall) (x : Exchange) :
    (runAll cs x).2.next = response cs x := by
  unfold Exchange.next response
  rw [(runAll_exchange cs x).2, List.head?_drop]

/-- When all responses are taken, the transport fails. -/
theorem response_of_length_le {before : List AnyCall} {x : Exchange}
    (h : x.pending.length ≤ (requests before).length) :
    response before x = .error (.transport none "no response queued") := by
  unfold response
  rw [List.getElem?_eq_none h]
  rfl

/-- A reply is what its call gets after the calls before it. -/
theorem getElem?_runAll {cs : List AnyCall} {x : Exchange} {i : Nat} {r : Reply}
    (h : (runAll cs x).1[i]? = some r) :
    ∃ c, cs[i]? = some c ∧ r = (c.run (runAll (cs.take i) x).2).1 := by
  induction cs generalizing x i with
  | nil => cases h
  | cons c cs ih =>
    rw [runAll_cons] at h
    cases i with
    | zero =>
      cases h
      exact ⟨c, rfl, rfl⟩
    | succ i => exact ih h

/-- **The transcript law.** In a session every call has a reply; the requests of the calls that are
not refused are sent in order, and each takes the next response, or a failure of the transport when
no response is left. A refused call has no request and reports a bad argument; every other call
answers its response, and reports no failure of its own but that a document of the server was
refused. -/
theorem transcript (cs : List AnyCall) (x : Exchange) :
    (runAll cs x).1.map Reply.toAnyCall = cs ∧
    (runAll cs x).2.sent = x.sent ++ requests cs ∧
    (runAll cs x).2.pending = x.pending.drop (requests cs).length ∧
    (∀ c ∈ cs, c.call.request? = none ↔ c.call.Refused) ∧
    (∀ i, x.pending.length ≤ (requests (cs.take i)).length →
      response (cs.take i) x = .error (.transport none "no response queued")) ∧
    ∀ i r, (runAll cs x).1[i]? = some r →
      (r.call.Refused ∧ ∃ why, r.outcome = .error (.invalidArgument why)) ∨
      (¬ r.call.Refused ∧ r.call.Answers (response (cs.take i) x) r.outcome ∧
        ∀ e, r.outcome = .error e →
          response (cs.take i) x = .error e ∨ e.isDeserialization = true) := by
  refine ⟨toAnyCall_runAll cs x, (runAll_exchange cs x).1, (runAll_exchange cs x).2,
    fun c _ => request?_eq_none_iff, fun i => response_of_length_le, fun i r h => ?_⟩
  obtain ⟨c, -, rfl⟩ := getElem?_runAll h
  rw [← next_runAll]
  rcases run_cases c.call (runAll (cs.take i) x).2 with ⟨hc, -, hwhy, -⟩ | ⟨hc, -, -, -, -, ha⟩
  · exact .inl ⟨hc, hwhy⟩
  · refine .inr ⟨hc, ha, fun e he => ?_⟩
    have he' : (c.call.run (runAll (cs.take i) x).2).1 = .error e := he
    rw [he'] at ha
    exact ha.error

end AnyCall

end CredStore.Client
