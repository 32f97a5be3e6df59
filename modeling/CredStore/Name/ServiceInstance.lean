import CredStore.Name.Basic

/-!
# Names of service instances

The name of a credential that a service broker binds: broker, offering, binding id and credential,
in this order, as the four segments of a plain name.
-/

namespace CredStore

/-- The name of a credential bound to a service instance. -/
structure ServiceName where
  broker : String
  offering : String
  binding : String
  credential : String
  wellFormed : ∀ s ∈ [broker, offering, binding, credential], IsSegment s
  deriving DecidableEq

namespace ServiceName

/-- The plain name. -/
def toName (n : ServiceName) : Name :=
  .ofWellFormed [n.broker, n.offering, n.binding, n.credential] n.wellFormed

/-- The path of the plain name. -/
def path (n : ServiceName) : String :=
  n.toName.path

/-- The name with these four parts; the first bad one is the cause of a refusal. -/
def ofParts (broker offering binding credential : String) : Outcome ServiceName :=
  if h : ∀ s ∈ [broker, offering, binding, credential], IsSegment s then
    .ok ⟨broker, offering, binding, credential, h⟩
  else refuse (Name.firstFault [broker, offering, binding, credential])

/-- A name of which some parts are still to be set. -/
structure Draft where
  broker : Option String := none
  offering : Option String := none
  binding : Option String := none
  credential : Option String := none

/-- Sets one part of a draft. -/
inductive Edit where
  | broker (s : String)
  | offering (s : String)
  | binding (s : String)
  | credential (s : String)

namespace Draft

/-- The draft after one edit; a part that was set before is replaced. -/
def edit (d : Draft) : Edit → Draft
  | .broker s => { d with broker := some s }
  | .offering s => { d with offering := some s }
  | .binding s => { d with binding := some s }
  | .credential s => { d with credential := some s }

/-- A part that must be set. -/
def required (what : String) : Option String → Outcome String
  | some s => .ok s
  | none => refuse (.unset what)

/-- The name. All parts must be set before any of them is looked at. -/
def build (d : Draft) : Outcome ServiceName := do
  let broker ← required "service broker name" d.broker
  let offering ← required "service offering name" d.offering
  let binding ← required "service binding id" d.binding
  let credential ← required "credential name" d.credential
  ofParts broker offering binding credential

end Draft

end ServiceName

end CredStore
