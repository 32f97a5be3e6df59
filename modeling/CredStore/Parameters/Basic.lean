import CredStore.Error
import CredStore.Inspect
import CredStore.Value.Basic

/-!
# Generation parameters

Parameters tell a server how to generate a credential. Every field is optional, and a field that is
not set does not appear in the document: the server has defaults of its own. Reading parameters
does not apply their rule; `validate` does.
-/

namespace CredStore

/-- A type of parameters, with the type of the values that are generated from them. -/
class GenerationParameters (α : Type) (β : outParam Type) where
  /-- The type of the generated credential. -/
  tag : CredentialType
  /-- Reads parameters without applying their rule. -/
  decoder : Decoder α
  /-- The document of parameters: the fields that are set. -/
  toJson : α → Json
  /-- The rule that ties the fields together. -/
  validate : α → Outcome Unit
  /-- What parameters show of themselves. -/
  inspect : α → Inspect

/-- A number that is not set or not zero. -/
def positiveIfSet (what : String) (n : Option UInt32) : Outcome Unit :=
  if n.map UInt32.toNat = some 0 then refuse (.notPositive what) else .ok ()

/-- A whole number in a document. -/
def Json.nat (n : Nat) : Json :=
  .int n

/-- A whole number of 32 bits in a document. -/
def Json.word (n : UInt32) : Json :=
  .nat n.toNat

/-- A whole number of 32 bits on inspection. -/
def Inspect.word (n : UInt32) : Inspect :=
  .atom (toString n.toNat)

/-! ## Key lengths -/

/-- A length that a key may have. -/
inductive KeyLength where
  | bits2048
  | bits3072
  | bits4096
  deriving DecidableEq, Repr

namespace KeyLength

/-- All lengths in rising order. -/
def all : List KeyLength :=
  [.bits2048, .bits3072, .bits4096]

/-- The number of bits. -/
def bits : KeyLength → Nat
  | .bits2048 => 2048
  | .bits3072 => 3072
  | .bits4096 => 4096

/-- The length with this many bits. -/
def ofBits (n : Nat) : Outcome KeyLength :=
  match all.find? fun l => l.bits = n with
  | some l => .ok l
  | none => refuse (.unsupportedKeyLength n)

/-- Reads a length from a number of bits. -/
def decoder : Decoder KeyLength :=
  Decoder.word.ruled fun n => ofBits n.toNat

def toJson (l : KeyLength) : Json :=
  .int l.bits

/-- A length shows its number of bits as part of a word. -/
def inspect (l : KeyLength) : Inspect :=
  .atom ("Length" ++ toString l.bits)

end KeyLength

end CredStore
