import CredStore.Error
import CredStore.Inspect
import CredStore.Log

/-!
# Write modes

What a server does when a credential of the same name exists already. Old servers know only a flag,
new ones a mode; a request carries what its author set, and the mode counts when both are set.
-/

namespace CredStore

/-- What happens to an existing credential of the same name. -/
inductive WriteMode where
  /-- A new version is always written. -/
  | overwrite
  /-- The existing version stays. -/
  | noOverwrite
  /-- A new version is written when the value or the parameters differ. -/
  | converge
  deriving DecidableEq, Repr

namespace WriteMode

/-- The modes by their words in documents. -/
def words : List (String × WriteMode) :=
  [("overwrite", .overwrite), ("no-overwrite", .noOverwrite), ("converge", .converge)]

/-- The word for a mode. -/
def text : WriteMode → String
  | .overwrite => "overwrite"
  | .noOverwrite => "no-overwrite"
  | .converge => "converge"

/-- The name of the mode where it is inspected. -/
def name : WriteMode → String
  | .overwrite => "Overwrite"
  | .noOverwrite => "NoOverwrite"
  | .converge => "Converge"

/-- The mode that the flag stands for. -/
def ofFlag (overwrite : Bool) : WriteMode :=
  if overwrite then .overwrite else .noOverwrite

/-- The mode with the given word. -/
def parse (s : String) : Outcome WriteMode :=
  match words.lookup s with
  | some m => .ok m
  | none => refuse (.unknownWriteMode s)

/-- Reads a mode from its word in a document. -/
def decoder : Decoder WriteMode :=
  Decoder.oneOf words

def toJson (m : WriteMode) : Json :=
  .text m.text

def inspect (m : WriteMode) : Inspect :=
  .atom m.name

end WriteMode

/-- What the author of a request set. -/
inductive WritePolicy where
  /-- Nothing: the server decides. -/
  | unset
  | mode (m : WriteMode)
  | flag (overwrite : Bool)
  deriving DecidableEq, Repr

namespace WritePolicy

/-- The policy for a mode and a flag, either of which may be unset. If both are set, the flag does not
count, and this is reported. -/
def reconcile : Option WriteMode → Option Bool → Logged WritePolicy
  | some m, some overwrite => do
    Logged.report
      { level := .warn
        label := "Both mode and legacy overwrite flag set, using explicit mode"
        fields := [("mode", m.text), ("overwrite", if overwrite then "true" else "false")] }
    return .mode m
  | some m, none => return .mode m
  | none, some overwrite => return .flag overwrite
  | none, none => return .unset

/-- The mode that the server will apply, if one was asked for. -/
def effectiveMode : WritePolicy → Option WriteMode
  | .unset => none
  | .mode m => some m
  | .flag overwrite => some (.ofFlag overwrite)

/-- The mode that a request states. -/
def modeField : WritePolicy → Option WriteMode
  | .mode m => some m
  | _ => none

/-- The flag that a request states. -/
def flagField : WritePolicy → Option Bool
  | .flag overwrite => some overwrite
  | _ => none

/-- A policy shows what was set. -/
def inspect : WritePolicy → Inspect
  | .unset => .atom "Unset"
  | .mode m => .wrap "Mode" m.inspect
  | .flag overwrite => .wrap "LegacyOverwrite" (.bool overwrite)

end WritePolicy

end CredStore
