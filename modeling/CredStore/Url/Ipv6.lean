import CredStore.Error
import CredStore.Text.Percent

/-!
# IPv6 addresses

An address is eight pieces of up to four hexadecimal digits with colons between them. `::` stands
once for one or more zero pieces, and the last two pieces may be written as an IPv4 address. Written
out, `::` stands for the first of the longest runs of at least two zeros.
-/

namespace CredStore.Url.Ipv6

/-- A piece: one to four hexadecimal digits. -/
def piece? (s : List Char) : Option Nat :=
  if s.isEmpty ∨ 4 < s.length then none
  else s.foldlM (fun n c => (Text.hexValue? c).map (n * 16 + ·)) 0

/-- A byte in base ten without leading zeros. -/
def byte? (s : List Char) : Option Nat :=
  if s.isEmpty ∨ 3 < s.length ∨ s.any (fun c => !c.isDigit) ∨ (s.head? = some '0' ∧ s ≠ ['0']) then
    none
  else
    let n := s.foldl (fun n c => n * 10 + (c.toNat - 0x30)) 0
    if n < 256 then some n else none

/-- The two pieces that an IPv4 address writes. -/
def embedded? (s : List Char) : Option (List Nat) :=
  match (s.splitOn '.').mapM byte? with
  | some [a, b, c, d] => some [a * 256 + b, c * 256 + d]
  | _ => none

/-- Pieces with colons between them; at the end of an address the last may be an IPv4 address. -/
def pieces? (s : List Char) (atEnd : Bool) : Option (List Nat) :=
  let parts := s.splitOn ':'
  match parts.getLast? with
  | none => none
  | some last =>
    if atEnd ∧ '.' ∈ last then do
      return (← parts.dropLast.mapM piece?) ++ (← embedded? last)
    else parts.mapM piece?

/-- Pieces as `pieces?` reads them, or none at all. -/
def run? (s : List Char) (atEnd : Bool) : Option (List Nat) :=
  if s.isEmpty then some [] else pieces? s atEnd

/-- The text before the first `::` and the text after it. -/
def splitGap : List Char → List Char × Option (List Char)
  | ':' :: ':' :: rest => ([], some rest)
  | c :: rest => let (before, after) := splitGap rest; (c :: before, after)
  | [] => ([], none)

/-- The eight pieces of an address. -/
def parse (s : List Char) : Except Error (List Nat) :=
  let found := match splitGap s with
    | (before, none) => (pieces? before true).filter (·.length = 8)
    | (before, some after) => do
      let front ← run? before false
      let back ← run? after true
      if front.length + back.length ≤ 7 then
        some (front ++ List.replicate (8 - front.length - back.length) 0 ++ back)
      else none
  match found with
  | some ps => .ok ps
  | none => .error .invalidIpv6

/-- The length of the run of zeros at the start. -/
def zeros (ps : List Nat) : Nat :=
  (ps.takeWhile (· = 0)).length

/-- The place and length of the longest run of zeros, the first of equal ones. -/
def longestRun : (ps : List Nat) → (place : Nat) → (best : Nat × Nat) → Nat × Nat
  | [], _, best => best
  | p :: rest, place, best =>
    let length := zeros (p :: rest)
    longestRun rest (place + 1) (if best.2 < length then (place, length) else best)

/-- Pieces with colons between them. -/
def joined (ps : List Nat) : List Char :=
  [':'].intercalate (ps.map Text.hexDigits)

/-- The text of an address. -/
def text (ps : List Nat) : List Char :=
  let (place, length) := longestRun ps 0 (0, 1)
  if length < 2 then joined ps
  else joined (ps.take place) ++ [':', ':'] ++ joined (ps.drop (place + length))

end CredStore.Url.Ipv6
