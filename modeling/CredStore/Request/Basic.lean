import CredStore.Error
import CredStore.Json.Basic
import CredStore.Request.Route
import CredStore.Text.Percent

/-!
# Requests

What is handed to the transport: a method, a path template with its variables, and a body.

A template is read from left to right: a placeholder runs from a `{` to the first `}` after it, and
everything else is literal. Filling a template puts the percent-encoded variables in the places of
the placeholders, in order; what was put in is not read again.
-/

namespace CredStore

/-! ## Path templates -/

namespace Template

/-- A part of a template. -/
inductive Piece where
  | literal (s : List Char)
  | placeholder (name : List Char)
  /-- A `{` that no `}` follows. -/
  | unterminated
  deriving DecidableEq, Repr

/-- Reads the rest of a template, inside a placeholder or not, after the characters `seen` of the
current piece in reverse. -/
def scan : (rest : List Char) → (inside : Bool) → (seen : List Char) → List Piece
  | [], false, seen => [.literal seen.reverse]
  | [], true, _ => [.unterminated]
  | c :: rest, false, seen =>
    if c = '\x7b' then .literal seen.reverse :: scan rest true [] else scan rest false (c :: seen)
  | c :: rest, true, seen =>
    if c = '\x7d' then .placeholder seen.reverse :: scan rest false []
    else scan rest true (c :: seen)

/-- The pieces of a template. -/
def pieces (template : String) : List Piece :=
  scan template.toList false []

/-- Puts the variables into the places of the placeholders. -/
def fillPieces (template : String) : List Piece → List String → Outcome (List Char)
  | [], [] => .ok []
  | [], _ :: _ => refuse (.tooManyVariables template)
  | .literal s :: rest, vs => (fillPieces template rest vs).map (s ++ ·)
  | .placeholder _ :: rest, v :: vs =>
    (fillPieces template rest vs).map ((Text.Percent.encodeComponent v).toList ++ ·)
  | .placeholder name :: _, [] =>
    refuse (.missingVariable (String.ofList ('\x7b' :: name ++ ['\x7d'])) template)
  | .unterminated :: _, _ => refuse (.unterminatedPlaceholder template)

/-- The path that a template and its variables give. -/
def fill (template : String) (arguments : List String) : Outcome String :=
  (fillPieces template (pieces template) arguments).map String.ofList

end Template

/-! ## Methods and requests -/

/-- The method of a request. -/
inductive Method where
  | get
  | post
  | put
  | delete
  | patch
  deriving DecidableEq, Repr

/-- The word for a method. -/
def Method.text : Method → String
  | .get => "GET"
  | .post => "POST"
  | .put => "PUT"
  | .delete => "DELETE"
  | .patch => "PATCH"

/-- A request. -/
structure Request where
  method : Method
  template : String
  arguments : List String := []
  body : Option Json := none

/-- The path of a request: its template filled with its variables. -/
def Request.path (r : Request) : Outcome String :=
  Template.fill r.template r.arguments

/-- A request to a route. -/
def Request.on (method : Method) (route : Route) (arguments : List String := [])
    (body : Option Json := none) : Request :=
  ⟨method, route.template, arguments, body⟩

end CredStore
