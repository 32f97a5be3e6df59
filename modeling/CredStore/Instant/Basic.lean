import CredStore.Inspect
import CredStore.Instant.Calendar
import CredStore.Json.Decode
import CredStore.Text.Quoted

/-!
# Instants

An instant is a number of seconds since 1970-01-01T00:00:00Z and a number of nanoseconds. A leap
second is the second before it with a thousand million nanoseconds more.

Reading is lenient: fields of one or two digits, blanks between the parts, years of any length with
a sign. Writing is strict: four digits of the year, two of every other field, the shortest fraction
of three, six or nine digits that is exact, and always `Z`.
-/

namespace CredStore

/-- A point in time. -/
structure Instant where
  seconds : Int
  nanos : Nat
  deriving DecidableEq, Repr

namespace Instant

open Text (skipBlank)
open Calendar (Date)

/-! ## Reading -/

/-- The number that decimal digits write. -/
def ofDigits (ds : List Char) : Nat :=
  ds.foldl (fun n c => n * 10 + (c.toNat - 0x30)) 0

/-- A number of at least one and at most `most` digits. -/
def number? (most : Nat) (s : List Char) : Option (Nat × List Char) :=
  let ds := (s.takeWhile Char.isDigit).take most
  if ds.isEmpty then none else some (ofDigits ds, s.drop ds.length)

/-- A number of one or two digits after blanks. -/
def field? (s : List Char) : Option (Nat × List Char) :=
  number? 2 (skipBlank s)

/-- The given character after blanks. -/
def mark? (c : Char) (s : List Char) : Option (List Char) :=
  match skipBlank s with
  | d :: rest => if c = d then some rest else none
  | [] => none

/-- A year: with a sign of any length, else of at most four digits. -/
def year? (s : List Char) : Option (Int × List Char) :=
  match skipBlank s with
  | '-' :: rest => (number? rest.length rest).map fun (n, r) => (-(n : Int), r)
  | '+' :: rest => (number? rest.length rest).map fun (n, r) => ((n : Int), r)
  | rest => (number? 4 rest).map fun (n, r) => ((n : Int), r)

/-- A date. -/
def date? (s : List Char) : Option (Date × List Char) := do
  let (year, s) ← year? s
  let (month, s) ← field? (← mark? '-' s)
  let (day, s) ← field? (← mark? '-' s)
  return (⟨year, month, day⟩, s)

/-- The nanoseconds of a fraction, if one follows; digits after the ninth do not count. -/
def fraction? (s : List Char) : Option (Nat × List Char) :=
  match s with
  | '.' :: rest =>
    let ds := rest.takeWhile Char.isDigit
    if ds.isEmpty then none
    else some (ofDigits (ds.take 9) * Nat.pow 10 (9 - (ds.take 9).length), rest.drop ds.length)
  | rest => some (0, rest)

/-- A time of day, in seconds and nanoseconds. -/
def time? (s : List Char) : Option (Nat × Nat × List Char) := do
  let (hour, s) ← field? s
  let (minute, s) ← field? (← mark? ':' s)
  let (second, s) ← field? (← mark? ':' s)
  let (nanos, s) ← fraction? s
  if 24 ≤ hour ∨ 60 ≤ minute ∨ 61 ≤ second then none
  else if second = 60 then some (hour * 3600 + minute * 60 + 59, nanos + 1000000000, s)
  else some (hour * 3600 + minute * 60 + second, nanos, s)

/-- Two digits and then two digits, with blanks and colons between them, in seconds. -/
def offset? (s : List Char) : Option (Nat × List Char) :=
  match s with
  | a :: b :: rest =>
    if a.isDigit ∧ b.isDigit then
      match rest.dropWhile fun c => c = ':' || Text.isBlank c with
      | c :: d :: rest =>
        if c.isDigit ∧ d.isDigit ∧ ofDigits [c, d] < 60 then
          some (ofDigits [a, b] * 3600 + ofDigits [c, d] * 60, rest)
        else none
      | _ => none
    else none
  | _ => none

/-- The distance of a zone from UTC in seconds, positive to the east. -/
def zone? (s : List Char) : Option (Int × List Char) :=
  let s := skipBlank s
  if (s.take 3).map Char.toUpper = ['U', 'T', 'C'] then some (0, s.drop 3)
  else
    match s with
    | [] => none
    | c :: rest =>
      if c = 'Z' ∨ c = 'z' then some (0, rest)
      else if c = '+' then (offset? rest).map fun (n, r) => ((n : Int), r)
      else if c = '-' ∨ c = '\u2212' then (offset? rest).map fun (n, r) => (-(n : Int), r)
      else none

/-- The first and the last year of which every day can be an instant. -/
def yearRange : Int × Int :=
  (-262143, 262142)

/-- The day lies in a year of the range. -/
def inRange (days : Int) : Bool :=
  Date.toDays ⟨yearRange.1, 1, 1⟩ ≤ days && days ≤ Date.toDays ⟨yearRange.2, 12, 31⟩

/-- The instant of a local date and time in a zone. -/
def make? (date : Date) (second nanos : Nat) (offset : Int) : Option Instant :=
  let seconds := date.toDays * 86400 + second - offset
  if date.isValid && inRange date.toDays && offset.natAbs < 86400 && inRange (seconds / 86400) then
    some ⟨seconds, nanos⟩
  else none

/-- Reads an instant. -/
def parse? (s : String) : Option Instant := do
  let (date, s) ← date? s.toList
  match s with
  | c :: s =>
    if c = 'T' ∨ c = 't' ∨ c = ' ' then
      let (second, nanos, s) ← time? s
      let (offset, s) ← zone? s
      if (skipBlank s).isEmpty then make? date second nanos offset else none
    else none
  | [] => none

/-! ## Writing -/

/-- `n` in decimal with zeros in front up to the given width. -/
def padded (width n : Nat) : List Char :=
  let ds := Nat.toDigits 10 n
  List.replicate (width - ds.length) '0' ++ ds

/-- Four digits, and a sign unless the year has just four. -/
def yearText (year : Int) : List Char :=
  if 0 ≤ year ∧ year ≤ 9999 then padded 4 year.toNat
  else (if year < 0 then '-' else '+') :: padded 4 year.natAbs

/-- The shortest exact fraction of three, six or nine digits, or none. -/
def fractionText (nanos : Nat) : List Char :=
  if nanos = 0 then []
  else if nanos % 1000000 = 0 then '.' :: padded 3 (nanos / 1000000)
  else if nanos % 1000 = 0 then '.' :: padded 6 (nanos / 1000)
  else '.' :: padded 9 nanos

/-- The text of an instant. -/
def text (t : Instant) : String :=
  let date := Date.ofDays (t.seconds / 86400)
  let second := (t.seconds % 86400).toNat
  let isLeapSecond := 1000000000 ≤ t.nanos
  let nanos := if isLeapSecond then t.nanos - 1000000000 else t.nanos
  String.ofList <|
    yearText date.year ++ '-' :: padded 2 date.month ++ '-' :: padded 2 date.day ++
    'T' :: padded 2 (second / 3600) ++ ':' :: padded 2 (second / 60 % 60) ++
    ':' :: padded 2 (second % 60 + if isLeapSecond then 1 else 0) ++ fractionText nanos ++ ['Z']

/-! ## Documents -/

/-- The instant that a text gives. There is one wording for all texts that give none, and it is this
library's own: readers of dates tell apart a field that is out of range, a text that ends too early
and one that goes on too long. -/
def ofText (s : String) : Except String Instant :=
  match parse? s with
  | some t => .ok t
  | none => .error "invalid date and time"

def decoder : Decoder Instant := fun j =>
  match j with
  | .text s => (ofText s).mapError .refused
  | j => .error (.unexpected j.glimpse "an RFC 3339 formatted date and time string")

def toJson (t : Instant) : Json :=
  .text t.text

/-- An instant shows its text, without quotes. -/
def inspect (t : Instant) : Inspect :=
  .atom t.text

end Instant

end CredStore
