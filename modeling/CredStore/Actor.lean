import CredStore.Error
import CredStore.Inspect

/-!
# Actors

Who a permission is granted to. On the wire an actor is its type, a `:` and its identity; the first
`:` ends the type, so an identity may hold more of them.
-/

namespace CredStore

/-- How an actor proves its identity. -/
inductive ActorType where
  /-- An application with a certificate of its own. -/
  | app
  | user
  | client
  deriving DecidableEq, Repr

namespace ActorType

/-- All types in the order of declaration. -/
def all : List ActorType :=
  [.app, .user, .client]

/-- The word in front of the identity. -/
def text : ActorType → String
  | .app => "mtls-app"
  | .user => "uaa-user"
  | .client => "uaa-client"

/-- The name of the type where it is inspected. -/
def name : ActorType → String
  | .app => "App"
  | .user => "User"
  | .client => "Client"

/-- The type with the given word. -/
def ofText? (s : String) : Option ActorType :=
  (all.map fun t => (t.text, t)).lookup s

/-- The type with the given word. -/
def parse (s : String) : Outcome ActorType :=
  match ofText? s with
  | some t => .ok t
  | none => mismatch (.unknownActorType s)

/-- Every type has its own word. -/
theorem ofText?_text (t : ActorType) : ofText? t.text = some t := by
  cases t <;> decide

end ActorType

/-- Who a permission is granted to. -/
structure Actor where
  type : ActorType
  identity : String
  identity_ne : identity ≠ ""
  deriving DecidableEq

namespace Actor

/-- The actor with this identity, which must not be empty. -/
def make (type : ActorType) (identity : String) : Outcome Actor :=
  if h : identity ≠ "" then .ok ⟨type, identity, h⟩ else refuse .emptyIdentity

/-- The wire form. -/
def encode (a : Actor) : String :=
  a.type.text ++ ":" ++ a.identity

/-- What is displayed of an actor. -/
def display (a : Actor) : String :=
  a.type.text ++ ":" ++ a.identity

/-- The text before the first `:` and the text after it. -/
def splitColon? (s : List Char) : Option (List Char × List Char) :=
  match s.span (· ≠ ':') with
  | (before, _ :: after) => some (before, after)
  | (_, []) => none

/-- Reads the wire form. -/
def decode (s : String) : Outcome Actor :=
  match splitColon? s.toList with
  | none => mismatch (.actorWithoutType s)
  | some (before, after) =>
    (ActorType.parse (String.ofList before)).bind fun type =>
      if h : String.ofList after ≠ "" then .ok ⟨type, String.ofList after, h⟩
      else mismatch (.actorWithoutIdentity s)

/-- Reads an actor from its wire form in a document. -/
def decoder : Decoder Actor :=
  Decoder.text.ruled decode

def toJson (a : Actor) : Json :=
  .text a.encode

/-- An actor shows its type and its identity. -/
def inspect (a : Actor) : Inspect :=
  .record "Actor" [("actor_type", .atom a.type.name), ("identity", .text a.identity)]

end Actor

end CredStore
