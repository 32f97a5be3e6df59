/-!
# Hexadecimal digits and percent-encoding

A byte is written `%XX` with two upper-case hexadecimal digits. Text is encoded through its UTF-8
bytes. `encodeComponent` leaves only the unreserved characters as they are, so its output holds no
delimiter of any part of a URL; `encodeBy` leaves what a given set leaves.
-/

namespace CredStore.Text

/-- The value of a hexadecimal digit of either case. -/
def hexValue? (c : Char) : Option Nat :=
  let n := c.toNat
  if 0x30 ≤ n ∧ n ≤ 0x39 then some (n - 0x30)
  else if 0x41 ≤ n ∧ n ≤ 0x46 then some (n - 0x37)
  else if 0x61 ≤ n ∧ n ≤ 0x66 then some (n - 0x57)
  else none

/-- The upper-case digit of `n`, for `n < 16`. -/
def upperHexDigit (n : Nat) : Char :=
  if n < 10 then Char.ofNat (0x30 + n) else Char.ofNat (0x37 + n)

/-- The digits of `n`, lower case, without leading zeros. -/
def hexDigits (n : Nat) : List Char :=
  Nat.toDigits 16 n

end CredStore.Text

namespace CredStore.Text.Percent

/-- `%XX` for one byte. -/
def encodeByte (b : UInt8) : List Char :=
  ['%', upperHexDigit (b.toNat / 16), upperHexDigit (b.toNat % 16)]

/-- `%XX` for each UTF-8 byte of `c`. -/
def encodeChar (c : Char) : List Char :=
  (String.utf8EncodeChar c).flatMap encodeByte

/-- Writes the characters of `s` that `keep` allows as they are and encodes the others. -/
def encodeBy (keep : Char → Bool) (s : List Char) : List Char :=
  s.flatMap fun c => if keep c then [c] else encodeChar c

/-- ASCII letters and digits, `-`, `_`, `.` and `~`. -/
def isUnreserved (c : Char) : Bool :=
  c.isAlphanum || c == '-' || c == '_' || c == '.' || c == '~'

/-- Text as one component of a path or a query. -/
def encodeComponent (s : String) : String :=
  String.ofList (encodeBy isUnreserved s.toList)

/-- The bytes that `s` stands for: a `%XX` is one byte, any other character its UTF-8 bytes. A `%`
that no two hexadecimal digits follow stands for itself. -/
def decodeBytes : List Char → List UInt8
  | '%' :: a :: b :: rest =>
    match hexValue? a, hexValue? b with
    | some x, some y => UInt8.ofNat (16 * x + y) :: decodeBytes rest
    | _, _ => String.utf8EncodeChar '%' ++ decodeBytes (a :: b :: rest)
  | c :: rest => String.utf8EncodeChar c ++ decodeBytes rest
  | [] => []

/-- The text that `s` stands for, if its bytes are UTF-8. -/
def decode? (s : List Char) : Option String :=
  String.fromUTF8? ⟨(decodeBytes s).toArray⟩

end CredStore.Text.Percent
