import CredStore.Text.Percent
import CredStore.Url.Ipv4
import CredStore.Url.Ipv6

/-!
# Hosts

A host is a name or an address. The name of a host on the web is percent-decoded and put into its
form in ASCII first; one that ends in a number is an IPv4 address. The host of any other URL is kept
as it is.

The form in ASCII of an international name hangs on the tables of Unicode, which are not part of
this library: `DomainToAscii` is whatever computes it, with the two laws that are relied on.
`DomainToAscii.ascii` is enough for names that are ASCII and stand for no international name.
-/

namespace CredStore.Url

/-- A host. -/
inductive Host where
  | name (s : List Char)
  | ipv4 (address : Nat)
  | ipv6 (pieces : List Nat)
  deriving DecidableEq, Repr

namespace Host

/-- The text of a host. -/
def text : Host → List Char
  | .name s => s
  | .ipv4 a => Ipv4.text a
  | .ipv6 ps => '[' :: Ipv6.text ps ++ [']']

/-- Characters that no host may have. -/
def isForbidden (c : Char) : Bool :=
  c.toNat = 0 || c == '\t' || c == '\n' || c == '\r' || c == ' ' || c == '#' || c == '/' ||
    c == ':' || c == '<' || c == '>' || c == '?' || c == '@' || c == '[' || c == '\\' || c == ']' ||
    c == '^' || c == '|'

/-- Characters that no name on the web may have, among the ASCII ones. -/
def isForbiddenInName (c : Char) : Bool :=
  isForbidden c || c.toNat < 0x20 || c == '%' || c.toNat == 0x7F

/-- The control characters and everything that is not ASCII. -/
def isControl (c : Char) : Bool :=
  c.toNat < 0x20 || 0x7E < c.toNat

end Host

/-! ## Names in ASCII -/

/-- A computation of the ASCII form of a name from its bytes, as the URL standard has it: by the
mapping of UTS 46, with Punycode for the labels that are not ASCII then. A name without such a form
has none. -/
structure DomainToAscii where
  name? : List UInt8 → Option (List Char)
  /-- The mapping leaves blanks and control characters as they are, and so does Punycode. -/
  keeps : ∀ {bytes : List UInt8} {name : List Char} {b : UInt8}, name? bytes = some name →
    b ∈ bytes → b.toNat ≤ 0x20 → Char.ofNat b.toNat ∈ name
  /-- A form with a character that no name may have is refused at the end. -/
  allowed : ∀ {bytes : List UInt8} {name : List Char}, name? bytes = some name →
    ∀ c ∈ name, Host.isForbiddenInName c = false

namespace DomainToAscii

/-- The label is the Punycode of another one. -/
def isEncoded (label : List Char) : Bool :=
  "xn--".toList.isPrefixOf label

/-- A name in lower case. -/
def lowerCase (bytes : List UInt8) : List Char :=
  bytes.map fun b => (Char.ofNat b.toNat).toLower

theorem mem_lowerCase {bytes : List UInt8} {b : UInt8} (hb : b ∈ bytes) (h : b.toNat ≤ 0x20) :
    Char.ofNat b.toNat ∈ lowerCase bytes := by
  have hsame : ∀ n < 0x21, (Char.ofNat n).toLower = Char.ofNat n := by decide
  rw [← hsame b.toNat (Nat.lt_succ_of_le h)]
  exact List.mem_map_of_mem hb

/-- The name is a form in ASCII already. -/
def isForm (name : List Char) : Bool :=
  !name.any Host.isForbiddenInName && !(name.splitOn '.').any isEncoded

theorem allowed_of_isForm {name : List Char} (h : isForm name) :
    ∀ c ∈ name, Host.isForbiddenInName c = false := by
  intro c hc
  simp only [isForm, Bool.and_eq_true, Bool.not_eq_true', List.any_eq_false] at h
  exact Bool.eq_false_iff.2 (h.1 c hc)

/-- Knows the names that are ASCII and stand for no others. -/
def ascii : DomainToAscii where
  name? bytes :=
    if bytes.all (· < 0x80) ∧ isForm (lowerCase bytes) then some (lowerCase bytes) else none
  keeps h hb hle := by
    obtain ⟨-, hname⟩ := Option.ite_none_right_eq_some.1 h
    exact Option.some.inj hname ▸ mem_lowerCase hb hle
  allowed h := by
    obtain ⟨⟨-, hform⟩, hname⟩ := Option.ite_none_right_eq_some.1 h
    exact Option.some.inj hname ▸ allowed_of_isForm hform

end DomainToAscii

/-! ## Reading hosts -/

namespace Host

/-- An address between brackets. -/
def bracketed (rest : List Char) : Except Error Host :=
  if rest.getLast? = some ']' then (Ipv6.parse rest.dropLast).map .ipv6 else .error .invalidIpv6

/-- The host of a URL of the web. -/
def parseWeb (toAscii : DomainToAscii) (s : List Char) : Except Error Host :=
  match s with
  | '[' :: rest => bracketed rest
  | s =>
    match toAscii.name? (Text.Percent.decodeBytes s) with
    | none => .error .invalidName
    | some domain =>
      if domain.isEmpty then .error .emptyHost
      else if Ipv4.endsInNumber domain then (Ipv4.parse domain).map .ipv4
      else .ok (.name domain)

/-- The host of any other URL. -/
def parseOther (s : List Char) : Except Error Host :=
  match s with
  | '[' :: rest => bracketed rest
  | s =>
    if s.any isForbidden then .error .forbiddenInHost
    else .ok (.name (Text.Percent.encodeBy (fun c => !isControl c) s))

end Host

end CredStore.Url
