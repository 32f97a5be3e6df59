import CredStore.Text.Percent
import CredStore.Url.Host

/-!
# Paths of URLs

A path is a list of segments, or a plain text when no `/` follows the scheme. While segments are
read, `.` is dropped and `..` takes the segment before it away; both leave an empty segment behind
at the end of a path. The letter of a drive stays.
-/

namespace CredStore.Url

/-- The path of a URL. -/
inductive Path where
  | plain (s : List Char)
  | segments (ss : List (List Char))
  deriving DecidableEq, Repr

namespace Path

/-- What a fragment, and with it a path, may hold: printable ASCII without a space, `"`, `<`, `>`
and a back quote. -/
def inFragment (c : Char) : Bool :=
  !(Host.isControl c || c == ' ' || c == '"' || c == '<' || c == '>' || c == '\x60')

/-- What a path may hold besides its separators. -/
def inSegment (c : Char) : Bool :=
  inFragment c && !(c == '#' || c == '?' || c == '\x7b' || c == '\x7d')

/-- `s` with every `%2e` replaced by a point. -/
def dots : List Char → List Char
  | '%' :: '2' :: c :: rest =>
    if c = 'e' ∨ c = 'E' then '.' :: dots rest else '%' :: '2' :: dots (c :: rest)
  | c :: rest => c :: dots rest
  | [] => []

/-- The segment stands for the current level. -/
def isSingleDot (s : List Char) : Bool :=
  dots s == ['.']

/-- The segment stands for the level above. -/
def isDoubleDot (s : List Char) : Bool :=
  dots s == ['.', '.']

/-- A tab or a line break. They do not count in a URL. -/
def isBreak (c : Char) : Bool :=
  c == '\t' || c == '\n' || c == '\r'

/-- A letter and a colon or a bar. -/
def isDrive (s : List Char) : Bool :=
  match s with
  | [a, b] => a.isAlpha && (b == ':' || b == '|')
  | _ => false

/-- The segment is the letter of a drive, or begins with one and a backslash. -/
def holdsDrive (s : List Char) : Bool :=
  isDrive s || (isDrive (s.take 2) && s[2]? == some '\\')

/-- Takes the last segment away, unless it holds the letter of a drive. -/
def up (done : List (List Char)) : List (List Char) :=
  if done.getLast?.any holdsDrive then done else done.dropLast

/-- What a piece of a path adds to the segments before it, percent-encoded. At the top of the path
of a file the letter of a drive gets a colon, and a tab after the letter and a colon ends the
segment. -/
def kept (file : Bool) (done : List (List Char)) (s : List Char) : List (List Char) :=
  match file, done, s with
  | true, [], [a, b] => if isDrive [a, b] then [[a, ':']] else [Text.Percent.encodeBy inSegment s]
  | true, [], a :: ':' :: '\t' :: rest => [[a, ':'], Text.Percent.encodeBy inSegment rest]
  | true, _, s => [Text.Percent.encodeBy inSegment (s.filter (!isBreak ·))]
  | false, _, s => [Text.Percent.encodeBy inSegment s]

/-- Adds the given pieces of a path one by one to the segments that were read before. -/
def addPieces (file : Bool) : (done pieces : List (List Char)) → List (List Char)
  | done, [] => done
  | done, [s] =>
    if isDoubleDot s then up done ++ [[]]
    else if isSingleDot s then done ++ [[]]
    else done ++ kept file done s
  | done, s :: rest =>
    if isDoubleDot s then addPieces file (up done) rest
    else if isSingleDot s then addPieces file done rest
    else addPieces file (done ++ kept file done s) rest

/-- A backslash separates segments on the web only. -/
def isSeparator (web : Bool) (c : Char) : Bool :=
  c == '/' || (web && c == '\\')

/-- The segments of a path, given after its first `/`. -/
def ofText (web : Bool) (s : List Char) : List (List Char) :=
  addPieces false [] (s.splitOnP (isSeparator web))

/-! ## Files -/

/-- A piece of the path of a file without breaks. One tab is left where a break parts a letter and
a colon from what follows them. -/
def joined (s : List Char) : List Char :=
  let parted := ((s.dropWhile (· ≠ ':')).drop 1).head?.any isBreak
  match s.filter (!isBreak ·) with
  | a :: ':' :: c :: rest =>
    if a.isAlpha && parted then a :: ':' :: '\t' :: c :: rest else a :: ':' :: c :: rest
  | t => t

/-- The pieces of the path of a file. -/
def filePieces (s : List Char) : List (List Char) :=
  (s.splitOnP (isSeparator true)).map joined

/-- The segments of the path of a file. Empty ones at the beginning are left out. -/
def ofFile (s : List Char) : List (List Char) :=
  let ss := addPieces true [] (filePieces s)
  if ss.all List.isEmpty then [[]] else ss.dropWhile List.isEmpty

/-- Some of the pieces is the letter of a drive and gets to the top of the path. -/
def meetsDrive : (done pieces : List (List Char)) → Bool
  | _, [] => false
  | done, s :: rest =>
    if isDoubleDot s then meetsDrive (up done) rest
    else if isSingleDot s then meetsDrive done rest
    else (done.isEmpty && isDrive s) || meetsDrive (done ++ kept true done s) rest

/-- The text of a path. -/
def text : Path → List Char
  | .plain s => s
  | .segments ss => ss.flatMap ('/' :: ·)

end Path

end CredStore.Url
