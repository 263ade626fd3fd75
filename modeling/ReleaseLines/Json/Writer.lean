import ReleaseLines.Binary64.Shortest
import ReleaseLines.Json.Basic
import ReleaseLines.Text.Quoted

namespace ReleaseLines.Json

/-- One 16-bit unit as an escape. -/
def unitEscape (unit : Nat) : List Char := '\\' :: 'u' :: Text.hexDigits 4 unit

/-- The written form of a character: printable ASCII as it is but for the quote and the backslash,
and all else escaped, in two units beyond the first plane. -/
def escapedChar (c : Char) : List Char :=
  let n := c.toNat
  if c == '"' then ['\\', '"']
  else if c == '\\' then ['\\', '\\']
  else if c == '\n' then ['\\', 'n']
  else if c == '\r' then ['\\', 'r']
  else if c == '\t' then ['\\', 't']
  else if n == 0x08 then ['\\', 'b']
  else if n == 0x0C then ['\\', 'f']
  else if 0x20 ≤ n && n ≤ 0x7E then [c]
  else if n < 0x10000 then unitEscape n
  else unitEscape (0xD800 + (n - 0x10000) / 0x400) ++ unitEscape (0xDC00 + (n - 0x10000) % 0x400)

/-- A text as a JSON string of ASCII characters. -/
def writeText (s : String) : String :=
  String.ofList ('"' :: (s.toList.flatMap escapedChar ++ ['"']))

/-- A number that is not whole. What is no finite number has a name instead. -/
def writeReal : Binary64 → String
  | .nan => "NaN"
  | .infinite negative => if negative then "-Infinity" else "Infinity"
  | value => value.text

mutual

/-- The value on one line, with a blank after each comma and colon. -/
def write : Json → String
  | null => "null"
  | bool true => "true"
  | bool false => "false"
  | int value => Numeral.intText value
  | real value => writeReal value
  | str value => writeText value
  | arr items => "[" ++ String.intercalate ", " (writeItems items) ++ "]"
  | obj members => "\x7b" ++ String.intercalate ", " (writeMembers members) ++ "\x7d"

def writeItems : List Json → List String
  | [] => []
  | item :: rest => write item :: writeItems rest

def writeMembers : List (String × Json) → List String
  | [] => []
  | (name, value) :: rest => (writeText name ++ ": " ++ write value) :: writeMembers rest

end

end ReleaseLines.Json
