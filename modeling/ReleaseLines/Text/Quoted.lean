import ReleaseLines.Text.Hexadecimal
import ReleaseLines.Text.Printable

namespace ReleaseLines.Text

/-- A single quote, unless the text holds single quotes and no double quote. -/
def quoteMark (cs : List Char) : Char :=
  if cs.contains '\x27' && !cs.contains '"' then '"' else '\x27'

/-- The written form of a character inside quotes. -/
def quotedChar (mark c : Char) : List Char :=
  if c == mark || c == '\\' then ['\\', c]
  else if c == '\n' then ['\\', 'n']
  else if c == '\r' then ['\\', 'r']
  else if c == '\t' then ['\\', 't']
  else if isPrintable c then [c]
  else if c.toNat < 0x100 then '\\' :: 'x' :: hexDigits 2 c.toNat
  else if c.toNat < 0x10000 then '\\' :: 'u' :: hexDigits 4 c.toNat
  else '\\' :: 'U' :: hexDigits 8 c.toNat

/-- The text between quotes on one line, with everything hidden spelled out. -/
def quotedChars (cs : List Char) : List Char :=
  let mark := quoteMark cs
  mark :: (cs.flatMap (quotedChar mark) ++ [mark])

/-- The text between quotes on one line, with everything hidden spelled out. -/
def quoted (s : String) : String := String.ofList (quotedChars s.toList)

end ReleaseLines.Text
