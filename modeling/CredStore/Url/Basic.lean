import CredStore.Url.Path

/-!
# URLs

The parts of a URL and its text.
-/

namespace CredStore

/-- A URL in its parts. All texts are kept percent-encoded. -/
structure Url where
  scheme : List Char
  username : List Char := []
  password : List Char := []
  host : Option Url.Host := none
  /-- The port, unless it is the usual one of the scheme. -/
  port : Option Nat := none
  path : Url.Path
  query : Option (List Char) := none
  fragment : Option (List Char) := none
  deriving DecidableEq, Repr

namespace Url

/-- User name and password, if there are any, with the `@` after them. -/
def userinfo (u : Url) : List Char :=
  if u.username.isEmpty ∧ u.password.isEmpty then []
  else u.username ++ (if u.password.isEmpty then [] else ':' :: u.password) ++ ['@']

/-- The host and what belongs to it, after `//`. Without a host, a path that begins with two
slashes is kept apart from the scheme. -/
def authority (u : Url) : List Char :=
  match u.host with
  | some h =>
    ['/', '/'] ++ u.userinfo ++ h.text ++
      (match u.port with | some p => ':' :: Nat.toDigits 10 p | none => [])
  | none =>
    match u.path with
    | .segments ([] :: _ :: _) => ['/', '.']
    | _ => []

/-- A part of a URL after its mark. -/
def marked (mark : Char) : Option (List Char) → List Char
  | some s => mark :: s
  | none => []

/-- The text of a URL. -/
def text (u : Url) : String :=
  String.ofList (u.scheme ++ ':' :: u.authority ++ u.path.text ++ marked '?' u.query ++
    marked '#' u.fragment)

end Url

end CredStore
