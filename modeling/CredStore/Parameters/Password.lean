import CredStore.Parameters.Basic
import CredStore.Value.Basic

/-!
# Parameters of passwords and users

A password has a length and classes of characters. A generated user follows the parameters of its
password.
-/

namespace CredStore

/-- How a password is generated. -/
structure PasswordParameters where
  length : Option UInt32 := none
  excludeUpper : Option Bool := none
  excludeLower : Option Bool := none
  excludeNumber : Option Bool := none
  includeSpecial : Option Bool := none
  deriving DecidableEq

namespace PasswordParameters

def record : Record PasswordParameters :=
  PasswordParameters.mk <$> Record.optional "length" Decoder.word
    <*> Record.optional "exclude_upper" Decoder.bool
    <*> Record.optional "exclude_lower" Decoder.bool
    <*> Record.optional "exclude_number" Decoder.bool
    <*> Record.optional "include_special" Decoder.bool

def decoder : Decoder PasswordParameters :=
  record.decoder "PasswordParameters"

def toJson (p : PasswordParameters) : Json :=
  .object (Json.member? "length" .word p.length ++
    Json.member? "exclude_upper" .bool p.excludeUpper ++
    Json.member? "exclude_lower" .bool p.excludeLower ++
    Json.member? "exclude_number" .bool p.excludeNumber ++
    Json.member? "include_special" .bool p.includeSpecial)

/-- No class of characters is left to generate from. -/
def excludesEveryClass (p : PasswordParameters) : Bool :=
  p.excludeUpper == some true && p.excludeLower == some true && p.excludeNumber == some true &&
    p.includeSpecial != some true

/-- A length is not zero, and some class of characters is left. -/
def validate (p : PasswordParameters) : Outcome Unit := do
  positiveIfSet "password length" p.length
  if p.excludesEveryClass then refuse .everyClassExcluded

def inspect (p : PasswordParameters) : Inspect :=
  .record "PasswordParameters"
    [("length", .option .word p.length), ("exclude_upper", .option .bool p.excludeUpper),
      ("exclude_lower", .option .bool p.excludeLower),
      ("exclude_number", .option .bool p.excludeNumber),
      ("include_special", .option .bool p.includeSpecial)]

/-- Sets one field. -/
inductive Edit where
  | length (n : UInt32)
  | excludeUpper (b : Bool)
  | excludeLower (b : Bool)
  | excludeNumber (b : Bool)
  | includeSpecial (b : Bool)

/-- The parameters after one edit; a field that was set before is replaced. -/
def edit (p : PasswordParameters) : Edit → PasswordParameters
  | .length n => { p with length := some n }
  | .excludeUpper b => { p with excludeUpper := some b }
  | .excludeLower b => { p with excludeLower := some b }
  | .excludeNumber b => { p with excludeNumber := some b }
  | .includeSpecial b => { p with includeSpecial := some b }

/-- The parameters, if they satisfy their rule. -/
def build (p : PasswordParameters) : Outcome PasswordParameters :=
  p.validate.map fun _ => p

end PasswordParameters

instance : GenerationParameters PasswordParameters PasswordValue where
  tag := .password
  decoder := PasswordParameters.decoder
  toJson := PasswordParameters.toJson
  validate := PasswordParameters.validate
  inspect := PasswordParameters.inspect

/-- How a user is generated. -/
structure UserParameters where
  password : PasswordParameters
  deriving DecidableEq

/-- The parameters of a user, if those of the password satisfy their rule. -/
def UserParameters.build (p : PasswordParameters) : Outcome UserParameters :=
  p.build.map UserParameters.mk

instance : GenerationParameters UserParameters UserValue where
  tag := .user
  decoder j := (PasswordParameters.decoder j).map UserParameters.mk
  toJson p := p.password.toJson
  validate p := p.password.validate
  inspect p := .wrap "UserParameters" p.password.inspect

end CredStore
