/-!
# Log entries

What the library reports of its own work. An entry is data: a level, a label and named fields.
Values of credentials and filled paths are never among the fields. `Logged` is the result of a
computation with all that it reported on its way, in order.
-/

namespace CredStore

/-- How much an entry matters. -/
inductive LogLevel where
  | debug
  | info
  | warn
  deriving DecidableEq

/-- The word for a level. -/
def LogLevel.text : LogLevel → String
  | .debug => "DEBUG"
  | .info => "INFO"
  | .warn => "WARN"

/-- One entry: an event, or the opening of a span that encloses later events. -/
structure LogEntry where
  level : LogLevel
  opensSpan : Bool := false
  label : String
  fields : List (String × String)
  deriving DecidableEq

/-- Entries in the order in which they were made. -/
abbrev Log := List LogEntry

/-- An entry on one line. -/
def LogEntry.render (e : LogEntry) : String :=
  let head := e.level.text ++ (if e.opensSpan then " span " else " ") ++ e.label
  e.fields.foldl (fun line f => line ++ " " ++ f.1 ++ "=" ++ f.2) head

/-! ## Computations that report -/

/-- A value, and what was reported while it was computed. -/
structure Logged (α : Type) where
  value : α
  log : Log := []

namespace Logged

/-- Reports one entry. -/
def report (e : LogEntry) : Logged Unit :=
  ⟨(), [e]⟩

/-- What the second computation reports comes after what the first one did. -/
instance : Monad Logged where
  pure a := ⟨a, []⟩
  bind x f := ⟨(f x.value).value, x.log ++ (f x.value).log⟩

end Logged

end CredStore
