import CredStore.Url.Basic

/-!
# Reading URLs

Reads an absolute URL. Blanks and control characters around it and line breaks and tabs inside it
do not count. On the web any number of slashes and backslashes may follow the scheme, there must be
a host, and the path is never empty. The ASCII form of the host is computed by a given function.
-/

namespace CredStore.Url

variable (toAscii : DomainToAscii)

/-- How the rest of a URL is read. -/
inductive SchemeKind where
  /-- A scheme of the web. -/
  | web
  | file
  | other
  deriving DecidableEq, Repr

/-- The usual port of a scheme. -/
def usualPort? (scheme : List Char) : Option Nat :=
  [("http".toList, 80), ("https".toList, 443), ("ws".toList, 80), ("wss".toList, 443),
    ("ftp".toList, 21)].lookup scheme

/-- The kind of a scheme. -/
def SchemeKind.of (scheme : List Char) : SchemeKind :=
  if scheme = "file".toList then .file else if (usualPort? scheme).isSome then .web else .other

/-- The text without the blanks and control characters around it. -/
def trim (s : List Char) : List Char :=
  let isEdge (c : Char) : Bool := c.toNat ≤ 0x20
  ((s.dropWhile isEdge).reverse.dropWhile isEdge).reverse

/-- The text without breaks. -/
def unbroken (s : List Char) : List Char :=
  s.filter (!Path.isBreak ·)

/-- Letters, digits and three marks may stand in a scheme. -/
def inScheme (c : Char) : Bool :=
  c.isAlphanum || c == '+' || c == '-' || c == '.'

/-- The scheme in lower case, and the text after its colon. -/
def splitScheme? (s : List Char) : Option (List Char × List Char) :=
  match s.head?, s.span inScheme with
  | some c, (scheme, ':' :: rest) =>
    if c.isAlpha then some (scheme.map Char.toLower, rest) else none
  | _, _ => none

/-- The character ends the authority. -/
def endsAuthority (web : Bool) (c : Char) : Bool :=
  c == '/' || c == '?' || c == '#' || (web && c == '\\')

/-! ## Query and fragment -/

/-- What a query may hold; on the web a `'` is encoded too. -/
def inQuery (special : Bool) (c : Char) : Bool :=
  !(Host.isControl c || c == ' ' || c == '"' || c == '#' || c == '<' || c == '>' ||
    (special && c == '\''))

/-- The fragment, if the text begins with its mark. -/
def fragmentOf : List Char → Option (List Char)
  | '#' :: rest => some (Text.Percent.encodeBy Path.inFragment rest)
  | _ => none

/-- The query and the fragment, from the text after the path. -/
def tailOf (special : Bool) : List Char → Option (List Char) × Option (List Char)
  | '?' :: rest =>
    (some (Text.Percent.encodeBy (inQuery special) (rest.takeWhile (· ≠ '#'))),
      fragmentOf (rest.dropWhile (· ≠ '#')))
  | rest => (none, fragmentOf rest)

/-- The character ends the path. -/
def endsPath (c : Char) : Bool :=
  c == '?' || c == '#'

/-- A URL with its path, query and fragment, given its other parts, how the text of the path is
read, and whether the scheme has the rules of the web for queries. -/
def withTail (u : Url) (special : Bool) (pathOf : List Char → Path) (s : List Char) : Url :=
  let tail := tailOf special (s.dropWhile fun c => !endsPath c)
  { u with
    path := pathOf (s.takeWhile fun c => !endsPath c)
    query := tail.1
    fragment := tail.2 }

/-! ## Authority -/

/-- What user name and password may hold. -/
def inUserinfo (c : Char) : Bool :=
  Path.inSegment c && !(c == '/' || c == ':' || c == ';' || c == '=' || c == '@' || c == '[' ||
    c == '\\' || c == ']' || c == '^' || c == '|')

/-- The text before the last `@` and the text after it. -/
def splitUserinfo? (s : List Char) : Option (List Char × List Char) :=
  match s.reverse.span (· ≠ '@') with
  | (after, _ :: before) => some (before.reverse, after.reverse)
  | (_, []) => none

/-- The text of a host at the start of `s`, and the rest. A colon between brackets belongs to the
host. -/
def spanHost (web : Bool) : (inside : Bool) → List Char → List Char × List Char
  | _, [] => ([], [])
  | inside, c :: rest =>
    if (c == ':' && !inside) || endsAuthority web c then ([], c :: rest)
    else
      let inside := if c == '[' then true else if c == ']' then false else inside
      let (host, rest) := spanHost web inside rest
      (c :: host, rest)

/-- A port after its colon, and the rest. Its digits end at a separator. -/
def readPort (s : List Char) : Except Error (Option Nat × List Char) :=
  let ds := s.takeWhile Char.isDigit
  let rest := s.dropWhile Char.isDigit
  let n := ds.foldl (fun n c => n * 10 + (c.toNat - 0x30)) 0
  if 65535 < n then .error .invalidPort
  else
    match rest with
    | c :: _ =>
      if c = '/' ∨ c = '\\' ∨ c = '?' ∨ c = '#' then .ok (if ds.isEmpty then none else some n, rest)
      else .error .invalidPort
    | [] => .ok (if ds.isEmpty then none else some n, rest)

/-- The host and the port at the start of `s`, and the rest. -/
def readHost (web : Bool) (scheme s : List Char) :
    Except Error (Host × Option Nat × List Char) := do
  let (text, rest) := spanHost web false s
  let host ← if web ∧ text.isEmpty then throw .emptyHost
    else if web then Host.parseWeb toAscii text
    else Host.parseOther text
  match rest with
  | ':' :: rest =>
    if text.isEmpty then throw .emptyHost
    let (port, rest) ← readPort rest
    return (host, if port = usualPort? scheme then none else port, rest)
  | rest => return (host, none, rest)

/-- The path after an authority. On the web it is never empty. -/
def pathAfterAuthority (web : Bool) (s : List Char) : Path :=
  match web, s with
  | false, [] => .segments []
  | _, c :: rest =>
    .segments (Path.ofText web (if Path.isSeparator web c then rest else c :: rest))
  | true, [] => .segments [[]]

/-- The rest of a URL after the slashes in front of its authority. -/
def readAuthority (web : Bool) (scheme s : List Char) : Except Error Url := do
  let front := s.takeWhile fun c => !endsAuthority web c
  let back := s.dropWhile fun c => !endsAuthority web c
  match splitUserinfo? front with
  | none =>
    let (host, port, rest) ← readHost toAscii web scheme s
    return withTail { scheme, host, port, path := .segments [] } web (pathAfterAuthority web) rest
  | some (info, after) =>
    if info.isEmpty ∧ after.isEmpty ∧ !back.isEmpty then throw .emptyHost
    let username := Text.Percent.encodeBy inUserinfo (info.takeWhile (· ≠ ':'))
    let password := Text.Percent.encodeBy inUserinfo ((info.dropWhile (· ≠ ':')).drop 1)
    let (host, port, rest) ← readHost toAscii web scheme (after ++ back)
    if host = .name [] ∧ (!username.isEmpty ∨ !password.isEmpty) then throw .emptyHost
    return withTail { scheme, username, password, host, port, path := .segments [] } web
      (pathAfterAuthority web) rest

/-! ## Files -/

/-- The text with breaks before its query and fragment only. -/
def brokenInFront (s : List Char) : List Char :=
  s.takeWhile (!endsPath ·) ++ unbroken (s.dropWhile (!endsPath ·))

/-- The text after the slash at its beginning, if there is one. -/
def afterSlash? (s : List Char) : Option (List Char) :=
  match s.dropWhile Path.isBreak with
  | c :: rest => if Path.isSeparator true c then some rest else none
  | [] => none

/-- The URL of a file on the given host. -/
def fileUrl (scheme : List Char) (host : Host) (s : List Char) : Url :=
  withTail { scheme, host := some host, path := .segments [] } true
    (fun t => .segments (Path.ofFile t)) s

/-- The URL of a file after the two slashes in front of its host. The letter of a drive is not a
host. A host is left out when it is the local one, and when the path begins with the letter of a
drive. -/
def readFileHost (scheme s : List Char) : Except Error Url := do
  let text := unbroken (s.takeWhile (!endsAuthority true ·))
  let rest := s.dropWhile (!endsAuthority true ·)
  if Path.isDrive text then return fileUrl scheme (.name []) s
  if text.isEmpty then return fileUrl scheme (.name []) rest
  let host ← Host.parseWeb toAscii text
  if host = .name "localhost".toList then return fileUrl scheme (.name []) rest
  let path := (afterSlash? rest).getD rest
  let onDrive := Path.meetsDrive [] (Path.filePieces (path.takeWhile (!endsPath ·)))
  return fileUrl scheme (if onDrive then .name [] else host) path

/-- The URL of a file after its scheme. -/
def readFile (scheme s : List Char) : Except Error Url :=
  match afterSlash? s with
  | none => .ok (fileUrl scheme (.name []) s)
  | some rest =>
    match afterSlash? rest with
    | none => .ok (fileUrl scheme (.name []) rest)
    | some rest => readFileHost toAscii scheme rest

/-! ## URLs -/

/-- Reads a URL. -/
def parse (s : String) : Except Error Url :=
  let text := trim s.toList
  match splitScheme? (unbroken text) with
  | none => .error .noScheme
  | some (scheme, rest) =>
    match SchemeKind.of scheme, rest with
    | .web, rest => readAuthority toAscii true scheme (rest.dropWhile (Path.isSeparator true))
    | .file, _ => readFile toAscii scheme (brokenInFront ((text.dropWhile (· ≠ ':')).drop 1))
    | .other, '/' :: '/' :: rest => readAuthority toAscii false scheme rest
    | .other, '/' :: rest =>
      .ok (withTail { scheme, path := .segments [] } false
        (fun t => .segments (Path.ofText false t)) rest)
    | .other, rest =>
      .ok (withTail { scheme, path := .plain [] } false
        (fun t => .plain (Text.Percent.encodeBy (fun c => !Host.isControl c) t)) rest)

end CredStore.Url
