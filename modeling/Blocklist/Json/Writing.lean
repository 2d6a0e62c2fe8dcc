import Blocklist.Json.Basic

/-!
# Writing JSON

Documents are written with one member or item a line, indented by two spaces for each level. Strings
keep their characters but for the quote, the backslash and the control characters.
-/

namespace Blocklist.Json

/-- The written form of a character in a string. -/
def escapeChar (c : Char) : Text :=
  if c = '"' || c = '\\' then ['\\', c]
  else if c = '\n' then ['\\', 'n']
  else if c = '\r' then ['\\', 'r']
  else if c = '\t' then ['\\', 't']
  else if c = '\x08' then ['\\', 'b']
  else if c = '\x0c' then ['\\', 'f']
  else if c.toNat < 0x20 then '\\' :: 'u' :: Text.hex 4 c.toNat
  else [c]

/-- A string in quotes. -/
def writeString (s : Text) : Text := '"' :: s.flatMap escapeChar ++ ['"']

/-- A line end and the indent of a level. -/
def newLine (level : Nat) : Text := '\n' :: Text.fill ' ' (2 * level)

mutual

/-- A value whose first line is already indented for its level. -/
def write (level : Nat) : Json → Text
  | .null => "null"
  | .bool true => "true"
  | .bool false => "false"
  | .int n => Text.ofInt n
  | .float x => Decimal.shortest x
  | .string s => writeString s
  | .array [] => ['[', ']']
  | .array (v :: items) => '[' :: writeItems (level + 1) (v :: items) ++ newLine level ++ [']']
  | .object [] => ['{', '}']
  | .object (m :: members) =>
    '{' :: writeMembers (level + 1) (m :: members) ++ newLine level ++ ['}']

/-- Items, each on a line of its own. -/
def writeItems (level : Nat) : List Json → Text
  | [] => []
  | [v] => newLine level ++ write level v
  | v :: rest => newLine level ++ write level v ++ [','] ++ writeItems level rest

/-- Members, each on a line of its own. -/
def writeMembers (level : Nat) : List (Text × Json) → Text
  | [] => []
  | [(k, v)] => newLine level ++ writeString k ++ [':', ' '] ++ write level v
  | (k, v) :: rest =>
    newLine level ++ writeString k ++ [':', ' '] ++ write level v ++ [','] ++
      writeMembers level rest

end

end Blocklist.Json
