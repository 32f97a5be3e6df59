import CredStore.Error
import CredStore.Log
import CredStore.Request.Basic

/-!
# Exchanges and operations

A transport that answers from memory is a queue of responses, one for each request that is sent. It
keeps the requests, and the log of all work that went through it.

An operation is a value: the request that it sends and how it reads the response. Running it sends
the request, reports the method, the template and whether there was a body, and reads the response.
An error of the transport is the result as it is.
-/

namespace CredStore

/-! ## Exchanges -/

/-- What comes back for a request: a body, or no content, or a failure. -/
abbrev Response := Outcome (Option Json)

/-- Responses to come, requests sent and the log. -/
structure Exchange where
  pending : List Response := []
  sent : List Request := []
  log : Log := []

namespace Exchange

/-- What an empty queue answers. -/
def exhausted : Response :=
  .error (.transport none "no response queued")

/-- The response to the next request. -/
def next (x : Exchange) : Response :=
  x.pending.head?.getD exhausted

/-- The exchange after one more request. -/
def send (x : Exchange) (r : Request) : Exchange :=
  { x with pending := x.pending.tail, sent := x.sent ++ [r] }

/-- The exchange with more entries in its log. -/
def record (x : Exchange) (entries : Log) : Exchange :=
  { x with log := x.log ++ entries }

end Exchange

/-! ## Operations -/

/-- Something that can be asked of the server. -/
structure Operation (α : Type) where
  /-- The name in the log and in errors. -/
  name : String
  request : Request
  /-- Reads the body of the response, if there is one. -/
  read : Option Json → Outcome α

namespace Operation

variable {α : Type}

/-! ## Reading responses -/

/-- A body that must be there. -/
def body (name : String) : Option Json → Outcome Json
  | some j => .ok j
  | none => mismatch (.emptyBody name)

/-- An operation that reads the body by `d`. -/
def decoding (name : String) (request : Request) (d : Decoder α) : Operation α where
  name := name
  request := request
  read b := (body name b).bind fun j =>
    (d j).mapError fun e => .deserialization (.undecodable name e)

/-- An operation that reads the body by a rule with errors of its own. -/
def reading (name : String) (request : Request) (f : Json → Outcome α) : Operation α where
  name := name
  request := request
  read b := (body name b).bind f

/-- An operation that does not look at the body. -/
def ignoring (name : String) (request : Request) : Operation Unit where
  name := name
  request := request
  read _ := .ok ()

/-- The first of a list that must not be empty. -/
def firstOf (why : Mismatch) : List α → Outcome α
  | a :: _ => .ok a
  | [] => mismatch why

/-- The operation with a result that is read further. -/
def andThen {β : Type} (op : Operation α) (f : α → Outcome β) : Operation β where
  name := op.name
  request := op.request
  read b := (op.read b).bind f

/-! ## Running -/

/-- What is reported of a response. -/
def responseEntry : Response → LogEntry
  | .ok b =>
    { level := .debug
      label := "CredHub request completed"
      fields := [("has_body", if b.isSome then "true" else "false")] }
  | .error e =>
    { level := .debug, label := "CredHub request failed", fields := [("error", e.message)] }

/-- What is reported of an operation and the response to it. -/
def entries (op : Operation α) (r : Response) : Log :=
  [{ level := .info
     opensSpan := true
     label := "credhub_request"
     fields := [("method", op.request.method.text), ("template", op.request.template),
       ("operation", op.name)] },
    responseEntry r]

/-- Runs an operation: its result, and the exchange after it. -/
def run (op : Operation α) (x : Exchange) : Outcome α × Exchange :=
  (x.next.bind op.read, (x.send op.request).record (op.entries x.next))

end Operation

end CredStore
