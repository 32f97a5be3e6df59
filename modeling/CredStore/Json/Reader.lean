import CredStore.Json.Basic
import CredStore.Text.Percent

/-!
# Reading documents

Reads the text of one document. A literal without point and exponent that fits 64 bits, signed or
unsigned, is a whole number; any other is a binary64, made from the first digits that fit an
unsigned 64-bit word and one power of ten. Objects come out sorted.
-/

namespace CredStore.Json

/-! ## Number literals -/

/-- The least number that does not fit an unsigned 64-bit word. -/
def wordBound : Nat := 18446744073709551616

/-- Takes digits into `n` as long as the result fits an unsigned 64-bit word, and counts them. -/
def absorb (n : Nat) : (digits : List Nat) → (taken : Nat) → Nat × Nat
  | [], taken => (n, taken)
  | d :: rest, taken =>
    if n * 10 + d < wordBound then absorb (n * 10 + d) rest (taken + 1) else (n, taken)

/-- `x * 10 ^ e`, by one multiplication or division by a power of ten; a much smaller power takes
further steps of `10 ^ 308`. Nothing when the result is too large. -/
def scale (x : Float) (e : Int) : (fuel : Nat) → Option Float
  | 0 => some 0
  | fuel + 1 =>
    if x == 0 then some x
    else if 308 < e then none
    else if 0 ≤ e then
      let y := x * Float.ofScientific 1 false e.toNat
      if y.isInf then none else some y
    else if -308 ≤ e then some (x / Float.ofScientific 1 false (-e).toNat)
    else scale (x / Float.ofScientific 1 false 308) (e + 308) fuel

/-- The number of a literal: its sign, the digits before and after the point, and the exponent if
it has one. -/
def numberOf? (negative : Bool) (whole : List Nat) (fraction : Option (List Nat))
    (exponent : Option Int) : Option Number :=
  let (n, taken) := absorb 0 whole 0
  let dropped : Int := whole.length - taken
  match fraction, exponent with
  | none, none =>
    if dropped = 0 ∧ negative = false then some (.whole n)
    else if dropped = 0 ∧ 0 < n ∧ n ≤ wordBound / 2 then some (.whole (-n))
    else (scale (Float.ofNat n) dropped 4).map fun x => .real (if negative then -x else x)
  | _, _ =>
    let (m, places) := absorb n (fraction.getD []) 0
    (scale (Float.ofNat m) (dropped - places + exponent.getD 0) 4).map fun x =>
      .real (if negative then -x else x)

/-- The value of a decimal digit. -/
def digit (c : Char) : Nat :=
  c.toNat - 0x30

/-- Splits off the leading decimal digits. -/
def digits (s : List Char) : List Nat × List Char :=
  ((s.takeWhile Char.isDigit).map digit, s.dropWhile Char.isDigit)

/-- The number that digits write in base ten. -/
def ofDigits (ds : List Nat) : Nat :=
  ds.foldl (fun n d => n * 10 + d) 0

/-- An exponent with its mark, if one follows. -/
def exponent? (s : List Char) : Option (Option Int × List Char) :=
  match s with
  | c :: rest =>
    if c = 'e' ∨ c = 'E' then
      let (negative, rest) := match rest with
        | '-' :: r => (true, r)
        | '+' :: r => (false, r)
        | r => (false, r)
      match digits rest with
      | ([], _) => none
      | (ds, rest) =>
        let n : Int := ofDigits ds
        some (some (if negative then -n else n), rest)
    else some (none, s)
  | [] => some (none, s)

/-- A number at the start of `s`. -/
def readNumber (s : List Char) : Option (Number × List Char) := do
  let (negative, s) := match s with
    | '-' :: r => (true, r)
    | r => (false, r)
  let (whole, s) := digits s
  if whole.isEmpty ∨ (whole.head? = some 0 ∧ whole.length ≠ 1) then none
  let (fraction, s) ← match s with
    | '.' :: r =>
      match digits r with
      | ([], _) => none
      | (ds, r) => some (some ds, r)
    | r => some (none, r)
  let (exponent, s) ← exponent? s
  return (← numberOf? negative whole fraction exponent, s)

/-! ## Strings -/

/-- Four hexadecimal digits. -/
def readUnit (s : List Char) : Option (Nat × List Char) :=
  match s with
  | a :: b :: c :: d :: rest => do
    let ds ← [a, b, c, d].mapM Text.hexValue?
    return (ds.foldl (fun n d => n * 16 + d) 0, rest)
  | _ => none

/-- The character of the UTF-16 unit `n` and, for a leading surrogate, the unit that follows. -/
def readUnits (n : Nat) (s : List Char) : Option (Char × List Char) :=
  if 0xD800 ≤ n ∧ n < 0xDC00 then
    match s with
    | '\\' :: 'u' :: rest => do
      let (m, rest) ← readUnit rest
      if 0xDC00 ≤ m ∧ m < 0xE000 then
        some (Char.ofNat (0x10000 + (n - 0xD800) * 0x400 + (m - 0xDC00)), rest)
      else none
    | _ => none
  else if 0xDC00 ≤ n ∧ n < 0xE000 then none
  else some (Char.ofNat n, s)

/-- The rest of a string after its opening quote, in reverse order of reading. -/
def readText : (fuel : Nat) → List Char → List Char → Option (String × List Char)
  | 0, _, _ => none
  | _ + 1, [], _ => none
  | _ + 1, '"' :: rest, seen => some (String.ofList seen.reverse, rest)
  | fuel + 1, '\\' :: c :: rest, seen =>
    match c with
    | '"' => readText fuel rest ('"' :: seen)
    | '\\' => readText fuel rest ('\\' :: seen)
    | '/' => readText fuel rest ('/' :: seen)
    | 'b' => readText fuel rest (Char.ofNat 0x08 :: seen)
    | 'f' => readText fuel rest (Char.ofNat 0x0C :: seen)
    | 'n' => readText fuel rest ('\n' :: seen)
    | 'r' => readText fuel rest ('\r' :: seen)
    | 't' => readText fuel rest ('\t' :: seen)
    | 'u' => do
      let (n, rest) ← readUnit rest
      let (c, rest) ← readUnits n rest
      readText fuel rest (c :: seen)
    | _ => none
  | fuel + 1, c :: rest, seen =>
    if c.toNat < 0x20 ∨ c = '\\' then none else readText fuel rest (c :: seen)

/-! ## Documents -/

/-- Skips the white space of documents. -/
def skipSpace (s : List Char) : List Char :=
  s.dropWhile fun c => c = ' ' ∨ c = '\n' ∨ c = '\r' ∨ c = '\t'

/-- What follows the given text, if `s` starts with it. -/
def after? : List Char → List Char → Option (List Char)
  | [], s => some s
  | c :: cs, d :: s => if c = d then after? cs s else none
  | _ :: _, [] => none

mutual

/-- One document at the start of `s`, which is past its white space. -/
def readValue : (fuel : Nat) → (s : List Char) → Option (Json × List Char)
  | 0, _ => none
  | fuel + 1, s =>
    match s with
    | '"' :: rest => (readText (rest.length + 1) rest []).map fun (t, r) => (.text t, r)
    | '[' :: rest =>
      match skipSpace rest with
      | ']' :: rest => some (.list [], rest)
      | rest => (readItems fuel rest).map fun (js, r) => (.list js, r)
    | '\x7b' :: rest =>
      match skipSpace rest with
      | '\x7d' :: rest => some (.object [], rest)
      | rest => (readMembers fuel rest).map fun (ms, r) => (.object (Members.ofList ms), r)
    | 'n' :: rest => (after? ['u', 'l', 'l'] rest).map fun r => (.null, r)
    | 't' :: rest => (after? ['r', 'u', 'e'] rest).map fun r => (.bool true, r)
    | 'f' :: rest => (after? ['a', 'l', 's', 'e'] rest).map fun r => (.bool false, r)
    | s => (readNumber s).map fun (n, r) => (.number n, r)

/-- The items of a list and its closing bracket. -/
def readItems : (fuel : Nat) → (s : List Char) → Option (List Json × List Char)
  | 0, _ => none
  | fuel + 1, s => do
    let (j, rest) ← readValue fuel s
    match skipSpace rest with
    | ']' :: rest => some ([j], rest)
    | ',' :: rest =>
      let (js, rest) ← readItems fuel (skipSpace rest)
      some (j :: js, rest)
    | _ => none

/-- The members of an object and its closing brace. -/
def readMembers : (fuel : Nat) → (s : List Char) → Option (List (String × Json) × List Char)
  | 0, _ => none
  | fuel + 1, s =>
    match s with
    | '"' :: rest => do
      let (k, rest) ← readText (rest.length + 1) rest []
      match skipSpace rest with
      | ':' :: rest =>
        let (j, rest) ← readValue fuel (skipSpace rest)
        match skipSpace rest with
        | '\x7d' :: rest => some ([(k, j)], rest)
        | ',' :: rest =>
          let (ms, rest) ← readMembers fuel (skipSpace rest)
          some ((k, j) :: ms, rest)
        | _ => none
      | _ => none
    | _ => none

end

/-- The document that a text holds, if it holds exactly one. -/
def read? (s : String) : Option Json := do
  let cs := skipSpace s.toList
  let (j, rest) ← readValue (cs.length + 1) cs
  if (skipSpace rest).isEmpty then some j else none

end CredStore.Json
