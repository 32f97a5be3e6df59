import CredStore.Json.Basic
import CredStore.Text.Percent

/-!
# Compact text of documents

The text of a document without any white space, members in the order in which the object holds
them.
-/

namespace CredStore.Json

/-- One character inside a JSON string. Control characters below U+0020 are escaped, everything
else above U+001F but the quote and the backslash is written as it is. -/
def escapeChar (c : Char) : List Char :=
  if c = '"' then ['\\', '"']
  else if c = '\\' then ['\\', '\\']
  else if c.toNat = 0x08 then ['\\', 'b']
  else if c.toNat = 0x0C then ['\\', 'f']
  else if c = '\n' then ['\\', 'n']
  else if c = '\r' then ['\\', 'r']
  else if c = '\t' then ['\\', 't']
  else if c.toNat < 0x10 then ['\\', 'u', '0', '0', '0'] ++ Text.hexDigits c.toNat
  else if c.toNat < 0x20 then ['\\', 'u', '0', '0'] ++ Text.hexDigits c.toNat
  else [c]

/-- A JSON string. -/
def textLiteral (s : String) : String :=
  String.ofList ('"' :: s.toList.flatMap escapeChar ++ ['"'])

mutual

/-- The compact text of a document. -/
def compact : Json → String
  | .null => "null"
  | .bool b => if b then "true" else "false"
  | .number n => n.text
  | .text s => textLiteral s
  | .list items => "[" ++ ",".intercalate (compactItems items) ++ "]"
  | .object members => "\x7b" ++ ",".intercalate (compactMembers members) ++ "\x7d"

/-- The text of each item. -/
def compactItems : List Json → List String
  | [] => []
  | j :: rest => compact j :: compactItems rest

/-- Each member as `"key":value`. -/
def compactMembers : List (String × Json) → List String
  | [] => []
  | (k, j) :: rest => (textLiteral k ++ ":" ++ compact j) :: compactMembers rest

end

end CredStore.Json
