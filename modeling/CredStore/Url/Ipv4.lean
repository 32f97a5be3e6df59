import CredStore.Error
import CredStore.Text.Percent

/-!
# IPv4 addresses

An address is written as up to four numbers with points between them, each in base eight, ten or
sixteen; the last one fills the bytes that are left. A host whose last label is a number must be an
address.
-/

namespace CredStore.Url.Ipv4

/-- The value of a digit in the given base. -/
def digit? (base : Nat) (c : Char) : Option Nat :=
  (Text.hexValue? c).filter (· < base)

/-- The number that the digits write in the given base; no digits write zero. -/
def number? (base : Nat) (s : List Char) : Option Nat :=
  s.foldlM (fun n c => (digit? base c).map (n * base + ·)) 0

/-- One part of an address: after `0x` in base sixteen, after a leading zero in base eight. -/
def part? (s : List Char) : Option Nat :=
  match s with
  | [] => none
  | ['0'] => some 0
  | '0' :: c :: rest => if c = 'x' ∨ c = 'X' then number? 16 rest else number? 8 (c :: rest)
  | s => number? 10 s

/-- The labels of a host name, without the empty one after a point at the end. -/
def labels (host : List Char) : List (List Char) :=
  let ls := host.splitOn '.'
  if 1 < ls.length ∧ ls.getLast? = some [] then ls.dropLast else ls

/-- The last label is a number. -/
def endsInNumber (host : List Char) : Bool :=
  match (labels host).getLast? with
  | some l => (l ≠ [] && l.all Char.isDigit) || (part? l).isSome
  | none => false

/-- The address that a host name writes. -/
def parse (host : List Char) : Except Error Nat :=
  match (labels host).mapM part? with
  | none => .error .invalidIpv4
  | some ns =>
    match ns.reverse with
    | [] => .error .invalidIpv4
    | last :: front =>
      let n := front.length
      if n ≤ 3 ∧ front.all (· < 256) ∧ last < Nat.pow 256 (4 - n) then
        .ok (front.reverse.foldl (fun a b => a * 256 + b) 0 * Nat.pow 256 (4 - n) + last)
      else .error .invalidIpv4

/-- Four numbers in base ten. -/
def text (a : Nat) : List Char :=
  let byte (k : Nat) := Nat.toDigits 10 (a / Nat.pow 256 k % 256)
  byte 3 ++ '.' :: byte 2 ++ '.' :: byte 1 ++ '.' :: byte 0

end CredStore.Url.Ipv4
