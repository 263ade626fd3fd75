import ReleaseLines.Binary64.Basic
import ReleaseLines.Numeral

namespace ReleaseLines.Binary64

/-- Digits of any script as plain digits, other characters as they are. -/
def plainDigits (cs : List Char) : List Char :=
  cs.map fun c => ((Text.digitValue? c).map Numeral.digitChar).getD c

/-- Drops the underscores between digits; there is no result if one stands elsewhere. -/
def withoutUnderscores (previous : Option Char) : List Char → Option (List Char)
  | [] => some []
  | '_' :: rest =>
    if previous.any Text.isDigit && rest.head?.any Text.isDigit then
      withoutUnderscores (some '_') rest
    else none
  | c :: rest => (withoutUnderscores (some c) rest).map (c :: ·)

/-- The value of plain digits. -/
def digitsValue (cs : List Char) : Nat := Numeral.valueOf (cs.filterMap Text.digitValue?)

/-- Reads the exponent that ends a numeral; an absent one is zero. -/
def readExponent : List Char → Option Int
  | [] => some 0
  | c :: rest =>
    if c == 'e' || c == 'E' then
      let (negative, body) := Numeral.signed rest
      if body.isEmpty || !body.all Text.isDigit then none
      else some (if negative then -(digitsValue body : Int) else digitsValue body)
    else none

/-- Splits the digits after a point off; without a point there are none. -/
def fractionDigits : List Char → List Char × List Char
  | '.' :: rest => (rest.takeWhile Text.isDigit, rest.dropWhile Text.isDigit)
  | cs => ([], cs)

/-- Reads an unsigned decimal numeral with an optional fraction and exponent. -/
def readDecimal (negative : Bool) (cs : List Char) : Option Binary64 :=
  let whole := cs.takeWhile Text.isDigit
  let (fraction, rest) := fractionDigits (cs.dropWhile Text.isDigit)
  if whole.isEmpty && fraction.isEmpty then none
  else
    (readExponent rest).map fun e =>
      ofDecimal negative (digitsValue (whole ++ fraction)) (e - fraction.length)

/-- Reads a number between optional blanks: a decimal numeral, or a name of infinity or of what is
not a number in any letter case. -/
def read? (s : String) : Option Binary64 :=
  let inner := Text.dropTrailing Numeral.isOuterBlank (s.toList.dropWhile Numeral.isOuterBlank)
  (withoutUnderscores none (plainDigits inner)).bind fun cs =>
    let (negative, body) := Numeral.signed cs
    let name := body.map Char.toLower
    if name == "inf".toList || name == "infinity".toList then some (infinite negative)
    else if name == "nan".toList then some nan
    else readDecimal negative body

end ReleaseLines.Binary64
