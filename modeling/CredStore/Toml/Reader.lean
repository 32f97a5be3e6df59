import CredStore.Text.Percent
import CredStore.Toml.Table

/-!
# Reading TOML

Reads a document of TOML 1.0. Texts are kept; of every other value only its form is checked. Arrays
and inline tables may be nested up to 79 levels deep.
-/

namespace CredStore.Toml

/-- A parser: what was read and the rest, or nothing. -/
abbrev Parse (α : Type) := List Char → Option (α × List Char)

/-! ## Blanks and comments -/

/-- A space or a tab. -/
def isSpace (c : Char) : Bool :=
  c == ' ' || c == '\t'

/-- Skips spaces and tabs. -/
def skipSpace (s : List Char) : List Char :=
  s.dropWhile isSpace

/-- A character that a comment may hold: a tab, or no control character. -/
def inComment (c : Char) : Bool :=
  c == '\t' || (0x20 ≤ c.toNat && c.toNat != 0x7F)

/-- Skips a comment, if there is one. -/
def skipComment (s : List Char) : List Char :=
  match s with
  | '#' :: rest => rest.dropWhile inComment
  | s => s

/-- What follows a line break, if `s` begins with one. -/
def newline? (s : List Char) : Option (List Char) :=
  match s with
  | '\n' :: rest => some rest
  | '\r' :: '\n' :: rest => some rest
  | _ => none

/-- The end of a line: blanks, perhaps a comment, and a line break or the end of the text. -/
def lineEnd? (s : List Char) : Option (List Char) :=
  match skipComment (skipSpace s) with
  | [] => some []
  | s => newline? s

/-- Skips blanks, comments and line breaks. -/
def skipLines : (fuel : Nat) → List Char → List Char
  | 0, s => s
  | fuel + 1, s =>
    let s := skipComment (skipSpace s)
    match newline? s with
    | some rest => skipLines fuel rest
    | none => s

/-- What follows the given text, if `s` begins with it. -/
def after? : List Char → List Char → Option (List Char)
  | [], s => some s
  | c :: cs, d :: s => if c = d then after? cs s else none
  | _ :: _, [] => none

/-! ## Texts -/

/-- The character with the code point that the first `n` characters write in base sixteen. -/
def codePoint? (n : Nat) : Parse Char := fun s => do
  let ds ← (s.take n).mapM Text.hexValue?
  let v := ds.foldl (fun a d => a * 16 + d) 0
  if ds.length = n ∧ v.isValidChar then some (Char.ofNat v, s.drop n) else none

/-- A character after a backslash. -/
def escape? : Parse Char := fun s =>
  match s with
  | 'b' :: rest => some (Char.ofNat 0x08, rest)
  | 't' :: rest => some ('\t', rest)
  | 'n' :: rest => some ('\n', rest)
  | 'f' :: rest => some (Char.ofNat 0x0C, rest)
  | 'r' :: rest => some ('\r', rest)
  | '"' :: rest => some ('"', rest)
  | '\\' :: rest => some ('\\', rest)
  | 'u' :: rest => codePoint? 4 rest
  | 'U' :: rest => codePoint? 8 rest
  | _ => none

/-- The rest of a text between double quotes on one line, after the characters `seen` in
reverse. -/
def basic : (fuel : Nat) → (seen : List Char) → Parse String
  | 0, _, _ => none
  | _ + 1, _, [] => none
  | fuel + 1, seen, c :: rest =>
    if c = '"' then some (String.ofList seen.reverse, rest)
    else if c = '\\' then (escape? rest).bind fun (d, rest) => basic fuel (d :: seen) rest
    else if inComment c then basic fuel (c :: seen) rest
    else none

/-- The rest of a text between single quotes on one line. -/
def literal : Parse String := fun s =>
  match s.dropWhile fun c => inComment c && c != '\'' with
  | '\'' :: rest => some (String.ofList (s.takeWhile fun c => inComment c && c != '\''), rest)
  | _ => none

/-- The end of a text of several lines: three quotes, before which up to two more belong to the
text. -/
def closing? (quote : Char) (s : List Char) : Option (List Char × List Char) :=
  let n := (s.takeWhile (· = quote)).length
  if n < 3 then none else some (List.replicate (min n 5 - 3) quote, s.drop (min n 5))

/-- Skips blanks and line breaks. -/
def skipBlankLines : List Char → List Char
  | '\r' :: '\n' :: rest => skipBlankLines rest
  | c :: rest => if isSpace c || c == '\n' then skipBlankLines rest else c :: rest
  | [] => []

/-- After a backslash at the end of a line: the text after all blanks and line breaks. -/
def folded? (s : List Char) : Option (List Char) :=
  (newline? (skipSpace s)).map skipBlankLines

/-- The rest of a text of several lines, with escapes or without. -/
def multiline (quote : Char) (escapes : Bool) : (fuel : Nat) → (seen : List Char) → Parse String
  | 0, _, _ => none
  | _ + 1, _, [] => none
  | fuel + 1, seen, c :: rest =>
    match closing? quote (c :: rest) with
    | some (quotes, rest) => some (String.ofList (seen.reverse ++ quotes), rest)
    | none =>
      if escapes && c == '\\' then
        match folded? rest with
        | some rest => multiline quote escapes fuel seen rest
        | none => (escape? rest).bind fun (d, rest) => multiline quote escapes fuel (d :: seen) rest
      else if inComment c then multiline quote escapes fuel (c :: seen) rest
      else
        match newline? (c :: rest) with
        | some rest => multiline quote escapes fuel ('\n' :: seen) rest
        | none => none

/-- A text, after a line break at its beginning has been dropped. -/
def multilineFrom (quote : Char) (escapes : Bool) : Parse String := fun s =>
  let s := (newline? s).getD s
  multiline quote escapes (s.length + 1) [] s

/-- A text in any of the four forms. -/
def text? : Parse String := fun s =>
  match s with
  | '"' :: '"' :: '"' :: rest => multilineFrom '"' true rest
  | '\'' :: '\'' :: '\'' :: rest => multilineFrom '\'' false rest
  | '"' :: rest => basic (rest.length + 1) [] rest
  | '\'' :: rest => literal rest
  | _ => none

/-! ## Keys -/

/-- A character of a key without quotes. -/
def inBareKey (c : Char) : Bool :=
  c.isAlphanum || c == '_' || c == '-'

/-- One part of a key. -/
def simpleKey? : Parse String := fun s =>
  match s with
  | '"' :: rest => basic (rest.length + 1) [] rest
  | '\'' :: rest => literal rest
  | s =>
    let key := s.takeWhile inBareKey
    if key.isEmpty then none else some (String.ofList key, s.dropWhile inBareKey)

/-- A key of one or more parts with points between them, and the blanks around them. -/
def key? : (fuel : Nat) → Parse (List String)
  | 0, _ => none
  | fuel + 1, s => do
    let (k, rest) ← simpleKey? (skipSpace s)
    match skipSpace rest with
    | '.' :: rest => (key? fuel rest).map fun (ks, rest) => (k :: ks, rest)
    | rest => some ([k], rest)

/-- The longest key. -/
def maxKeyParts : Nat := 79

/-! ## Numbers, dates and times -/

/-- Digits with single underscores between them, without the underscores. -/
def digits? (isDigit : Char → Bool) : Parse (List Char) := fun s =>
  let raw := s.takeWhile fun c => isDigit c || c == '_'
  let rest := s.dropWhile fun c => isDigit c || c == '_'
  let groups := raw.splitOn '_'
  if groups.any List.isEmpty then none else some (groups.flatten, rest)

/-- The number that digits write in a base. -/
def valueOf (base : Nat) (ds : List Char) : Nat :=
  ds.foldl (fun n c => n * base + (Text.hexValue? c).getD 0) 0

/-- The greatest integer plus one. -/
def integerBound : Nat := 9223372036854775808

/-- A sign, if there is one; true for a minus. -/
def sign (s : List Char) : Bool × List Char :=
  match s with
  | '-' :: rest => (true, rest)
  | '+' :: rest => (false, rest)
  | rest => (false, rest)

/-- Decimal digits without a leading zero. -/
def decimal? : Parse (List Char) := fun s =>
  (digits? Char.isDigit s).bind fun (ds, rest) =>
    if ds.head? = some '0' ∧ ds.length ≠ 1 then none else some (ds, rest)

/-- An integer after a base mark. -/
def based? (base : Nat) : Parse Unit := fun s =>
  (digits? (fun c => (Text.hexValue? c).any (· < base)) s).bind fun (ds, rest) =>
    if valueOf base ds < integerBound then some ((), rest) else none

/-- An integer. -/
def integer? : Parse Unit := fun s =>
  match s with
  | '0' :: 'x' :: rest => based? 16 rest
  | '0' :: 'o' :: rest => based? 8 rest
  | '0' :: 'b' :: rest => based? 2 rest
  | s =>
    let (negative, s) := sign s
    (decimal? s).bind fun (ds, rest) =>
      if valueOf 10 ds < integerBound + (if negative then 1 else 0) then some ((), rest) else none

/-- The exponent of a float, if there is one. -/
def exponent? : Parse (Option Int) := fun s =>
  match s with
  | c :: rest =>
    if c = 'e' ∨ c = 'E' then
      let (negative, rest) := sign rest
      (digits? Char.isDigit rest).map fun (ds, rest) =>
        let n : Int := valueOf 10 ds
        (some (if negative then -n else n), rest)
    else some (none, s)
  | [] => some (none, s)

/-- `m * 10 ^ e` rounds to a finite binary64. -/
def isFinite (m : Nat) (e : Int) : Bool :=
  let bound := Nat.pow 2 1024 - Nat.pow 2 970
  if m = 0 then true
  else if 400 < e then false
  else if 0 ≤ e then m * Nat.pow 10 e.toNat < bound
  else m < bound * Nat.pow 10 (min e.natAbs (Nat.toDigits 10 m).length)

/-- A float: a fraction or an exponent or both. A number too large is refused unless it is
negative. -/
def float? : Parse Unit := fun s => do
  let (negative, s) := sign s
  match after? ['i', 'n', 'f'] s, after? ['n', 'a', 'n'] s with
  | some rest, _ => some ((), rest)
  | none, some rest => some ((), rest)
  | none, none =>
    let (whole, s) ← decimal? s
    let (fraction, s) ← match s with
      | '.' :: rest => (digits? Char.isDigit rest).map fun (ds, rest) => (some ds, rest)
      | rest => some (none, rest)
    let (exponent, s) ← exponent? s
    if fraction.isNone ∧ exponent.isNone then none
    let places := fraction.getD []
    if negative || isFinite (valueOf 10 (whole ++ places)) (exponent.getD 0 - places.length) then
      some ((), s)
    else none

/-- A number of exactly `n` digits. -/
def fixed? (n : Nat) : Parse Nat := fun s =>
  let ds := s.take n
  if ds.length = n ∧ ds.all Char.isDigit then some (valueOf 10 ds, s.drop n) else none

/-- The number of days of a month. -/
def monthLength (year month : Nat) : Nat :=
  if month = 2 then
    (if (year % 4 = 0 ∧ year % 100 ≠ 0) ∨ year % 400 = 0 then 29 else 28)
  else if month = 4 ∨ month = 6 ∨ month = 9 ∨ month = 11 then 30
  else 31

/-- A date. -/
def date? : Parse Unit := fun s => do
  let (year, s) ← fixed? 4 s
  let (month, s) ← fixed? 2 (← after? ['-'] s)
  let (day, s) ← fixed? 2 (← after? ['-'] s)
  if 1 ≤ month ∧ month ≤ 12 ∧ 1 ≤ day ∧ day ≤ monthLength year month then some ((), s) else none

/-- A time of day with an optional fraction of a second. -/
def time? : Parse Unit := fun s => do
  let (hour, s) ← fixed? 2 s
  let (minute, s) ← fixed? 2 (← after? [':'] s)
  let (second, s) ← fixed? 2 (← after? [':'] s)
  if 24 ≤ hour ∨ 60 ≤ minute ∨ 61 ≤ second then none
  match s with
  | '.' :: rest =>
    let ds := rest.takeWhile Char.isDigit
    if ds.isEmpty then none else some ((), rest.drop ds.length)
  | s => some ((), s)

/-- The distance from UTC, if one is given. -/
def zone? : Parse Unit := fun s =>
  match s with
  | c :: rest =>
    if c = 'Z' ∨ c = 'z' then some ((), rest)
    else if c = '+' ∨ c = '-' then do
      let (hour, s) ← fixed? 2 rest
      let (minute, s) ← fixed? 2 (← after? [':'] s)
      if hour < 24 ∧ minute < 60 then some ((), s) else none
    else some ((), s)
  | [] => some ((), [])

/-- A date, a time, or both. After a date a time follows a `T` or one space. -/
def moment? : Parse Unit := fun s =>
  match date? s with
  | none => time? s
  | some (_, rest) =>
    match rest with
    | c :: after =>
      if c = 'T' ∨ c = 't' ∨ c = ' ' then
        match time? after with
        | some (_, after) => zone? after
        | none => if c = ' ' then some ((), rest) else none
      else some ((), rest)
    | [] => some ((), [])

/-- The first of several parsers that reads. -/
def firstOf {α : Type} (ps : List (Parse α)) : Parse α := fun s =>
  ps.findSome? fun p => p s

/-- A value that is neither a text nor made of other values. -/
def scalar? : Parse Unit :=
  firstOf [fun s => (after? "true".toList s).map ((), ·),
    fun s => (after? "false".toList s).map ((), ·), moment?, float?, integer?]

/-! ## Values -/

mutual

/-- A value; `depth` more levels may open. -/
def value? : (fuel depth : Nat) → Parse Node
  | 0, _, _ => none
  | fuel + 1, depth, s =>
    match s with
    | '"' :: _ => (text? s).map fun (t, rest) => (.text t, rest)
    | '\'' :: _ => (text? s).map fun (t, rest) => (.text t, rest)
    | '[' :: rest => if depth = 0 then none else items? fuel (depth - 1) rest
    | '\x7b' :: rest =>
      if depth = 0 then none
      else
        match skipSpace rest with
        | '\x7d' :: rest => some (.other, rest)
        | _ => pairs? fuel (depth - 1) (.opened []) rest
    | s => (scalar? s).map fun (_, rest) => (.other, rest)

/-- The items of an array and its closing bracket. The last item may have a comma. -/
def items? : (fuel depth : Nat) → Parse Node
  | 0, _, _ => none
  | fuel + 1, depth, s =>
    match skipLines (s.length + 1) s with
    | ']' :: rest => some (.other, rest)
    | s => do
      let (_, rest) ← value? fuel depth s
      match skipLines (rest.length + 1) rest with
      | ']' :: rest => some (.other, rest)
      | ',' :: rest => items? fuel depth rest
      | _ => none

/-- The pairs of an inline table and its closing brace; `table` holds the pairs before. -/
def pairs? : (fuel depth : Nat) → (table : Node) → Parse Node
  | 0, _, _, _ => none
  | fuel + 1, depth, table, s => do
    let (key, rest) ← key? maxKeyParts s
    let rest ← after? ['='] rest
    let (v, rest) ← value? fuel depth (skipSpace rest)
    let table ← table.pair key.dropLast (key.getLast?.getD "") v
    match skipSpace rest with
    | '\x7d' :: rest => some (.other, rest)
    | ',' :: rest => pairs? fuel depth table rest
    | _ => none

end

/-- How deep values may be nested. -/
def maxDepth : Nat := 79

/-! ## Documents -/

/-- A document while it is read: its tables, and the path of the table that pairs go to. -/
structure State where
  root : Node
  current : List String

/-- Reads a header with one or two brackets, after them. -/
def header? (brackets : Nat) (st : State) : Parse State := fun s => do
  let (path, rest) ← key? maxKeyParts s
  let rest ← after? (List.replicate brackets ']') rest
  let key := path.getLast?.getD ""
  let f := if brackets = 1 then Node.openTable key else Node.addTable key
  let root ← st.root.change false f path.dropLast
  return (⟨root, path⟩, rest)

/-- Reads a pair. -/
def pair? (st : State) : Parse State := fun s => do
  let (key, rest) ← key? maxKeyParts s
  let rest := skipSpace (← after? ['='] rest)
  let (v, rest) ← value? (2 * rest.length + 2) maxDepth rest
  let root ← st.root.change false (·.pair key.dropLast (key.getLast?.getD "") v) st.current
  return (⟨root, st.current⟩, rest)

/-- Reads lines to the end of the text. -/
def lines? : (fuel : Nat) → State → List Char → Option Node
  | 0, _, _ => none
  | fuel + 1, st, s =>
    match skipLines (s.length + 1) s with
    | [] => some st.root
    | '[' :: '[' :: rest =>
      (header? 2 st rest).bind fun (st, rest) => (lineEnd? rest).bind (lines? fuel st)
    | '[' :: rest =>
      (header? 1 st rest).bind fun (st, rest) => (lineEnd? rest).bind (lines? fuel st)
    | s => (pair? st s).bind fun (st, rest) => (lineEnd? rest).bind (lines? fuel st)

/-- The root table of a document. A byte order mark in front of it does not count. -/
def read? (s : String) : Option Node :=
  let cs := match s.toList with
    | c :: rest => if c.toNat = 0xFEFF then rest else c :: rest
    | [] => []
  lines? (cs.length + 1) ⟨.opened [], []⟩ cs

end CredStore.Toml
