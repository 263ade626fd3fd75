import ReleaseLines.Binary64.Reader
import ReleaseLines.Json.Basic
import ReleaseLines.Text.Hexadecimal

namespace ReleaseLines.Json

/-- A blank that may stand between the parts of a value. -/
def isGap (c : Char) : Bool := c == ' ' || c == '\t' || c == '\n' || c == '\r'

def skipGap (cs : List Char) : List Char := cs.dropWhile isGap

/-- The letters that may follow a backslash, with the code of what they stand for. -/
def escapes : List (Char × Nat) :=
  [('"', 0x22), ('\\', 0x5C), ('/', 0x2F), ('b', 0x08), ('f', 0x0C), ('n', 0x0A), ('r', 0x0D),
   ('t', 0x09)]

/-- Reads a string up to its closing quote, after what was read before in reverse: the codes of its
characters, where those beyond the first plane may be two, and what follows the quote. -/
def readCodes (before : List Nat) : List Char → Option (List Nat × List Char)
  | '"' :: rest => some (before.reverse, rest)
  | '\\' :: 'u' :: a :: b :: c :: d :: rest =>
    match Text.hexNumber? [a, b, c, d] with
    | some code => readCodes (code :: before) rest
    | none => none
  | '\\' :: letter :: rest =>
    match escapes.lookup letter with
    | some code => readCodes (code :: before) rest
    | none => none
  | c :: rest => if c.toNat < 0x20 then none else readCodes (c.toNat :: before) rest
  | [] => none

/-- What stands for half of a character without its other half. -/
def stray : Char := Char.ofNat 0xFFFD

/-- The character of a code, unless the code is half of one. -/
def charOf (code : Nat) : Char := if 0xD800 ≤ code && code < 0xE000 then stray else Char.ofNat code

/-- The character of two codes, if they are the halves of one. -/
def joined? (high low : Nat) : Option Char :=
  if 0xD800 ≤ high && high < 0xDC00 && 0xDC00 ≤ low && low < 0xE000 then
    some (Char.ofNat (0x10000 + 0x400 * (high - 0xD800) + (low - 0xDC00)))
  else none

/-- The characters of codes, after those before in reverse. -/
def joinCodes (before : List Char) : List Nat → List Char
  | [] => before.reverse
  | [code] => (charOf code :: before).reverse
  | high :: low :: rest =>
    match joined? high low with
    | some c => joinCodes (c :: before) rest
    | none => joinCodes (charOf high :: before) (low :: rest)

/-- Reads a string after its opening quote. -/
def readText (cs : List Char) : Option (String × List Char) :=
  (readCodes [] cs).map fun (codes, rest) => (String.ofList (joinCodes [] codes), rest)

/-- Splits an exponent off that begins with its letter. -/
def splitExponent (cs : List Char) : List Char × List Char :=
  match cs with
  | c :: rest =>
    if c == 'e' || c == 'E' then
      let sign := rest.takeWhile fun c => c == '+' || c == '-'
      let after := rest.dropWhile fun c => c == '+' || c == '-'
      let digits := after.takeWhile Text.isDigit
      (c :: (sign ++ digits), after.dropWhile Text.isDigit)
    else ([], cs)
  | [] => ([], [])

/-- Reads a number without its sign. A whole number has no superfluous zeros, and neither point nor
exponent. -/
def readNumber (negative : Bool) (cs : List Char) : Option (Json × List Char) :=
  let whole := cs.takeWhile Text.isDigit
  let (fraction, after) := Binary64.fractionDigits (cs.dropWhile Text.isDigit)
  let pointed := (cs.dropWhile Text.isDigit).head? == some '.'
  let (exponent, rest) := splitExponent after
  if whole.isEmpty || (whole.head? == some '0' && 1 < whole.length) then none
  else if pointed && fraction.isEmpty then none
  else if !pointed && exponent.isEmpty then
    let n : Int := Binary64.digitsValue whole
    some (int (if negative then -n else n), rest)
  else
    (Binary64.readExponent exponent).map fun e =>
      let value := Binary64.digitsValue (whole ++ fraction)
      (real (Binary64.ofDecimal negative value (e - fraction.length)), rest)

/-- The values that are written as a word. -/
def constants : List (String × Json) :=
  [("null", null), ("true", bool true), ("false", bool false), ("NaN", real .nan),
   ("Infinity", real (.infinite false)), ("-Infinity", real (.infinite true))]

/-- The members with one more, in the place of an earlier one of that name. -/
def putMember (members : List (String × Json)) (name : String) (value : Json) :
    List (String × Json) :=
  match members with
  | [] => [(name, value)]
  | member :: rest =>
    if member.1 == name then (name, value) :: rest else member :: putMember rest name value

/-- Reads one of the constants. -/
def readConstant (cs : List Char) : Option (Json × List Char) :=
  (constants.find? fun (name, _) => name.toList.isPrefixOf cs).map fun (name, value) =>
    (value, cs.drop name.length)

/-- Reads a number with an optional minus sign, or a constant. -/
def readAtom (cs : List Char) : Option (Json × List Char) :=
  match readConstant cs with
  | some found => some found
  | none =>
    match cs with
    | '-' :: rest => readNumber true rest
    | _ => readNumber false cs

mutual

/-- Reads a value, and gives what follows it. An array or an object takes one step of `depth` for
itself and one for each of its parts. -/
def readValue : (depth : Nat) → List Char → Option (Json × List Char)
  | 0, _ => none
  | depth + 1, cs =>
    match cs with
    | '"' :: rest => (readText rest).map fun (text, rest) => (str text, rest)
    | '[' :: rest =>
      match skipGap rest with
      | ']' :: rest => some (arr [], rest)
      | rest => readItems depth [] rest
    | '\x7b' :: rest =>
      match skipGap rest with
      | '\x7d' :: rest => some (obj [], rest)
      | rest => readMembers depth [] rest
    | _ => readAtom cs

/-- Reads the items of an array up to its end, after those before in reverse. -/
def readItems : (depth : Nat) → List Json → List Char → Option (Json × List Char)
  | 0, _, _ => none
  | depth + 1, before, cs =>
    match readValue depth cs with
    | none => none
    | some (item, rest) =>
      match skipGap rest with
      | ']' :: rest => some (arr (item :: before).reverse, rest)
      | ',' :: rest => readItems depth (item :: before) (skipGap rest)
      | _ => none

/-- Reads the members of an object up to its end, after those before. -/
def readMembers : (depth : Nat) → List (String × Json) → List Char → Option (Json × List Char)
  | 0, _, _ => none
  | depth + 1, before, cs =>
    match cs with
    | '"' :: rest =>
      match readText rest with
      | none => none
      | some (name, rest) =>
        match skipGap rest with
        | ':' :: rest =>
          match readValue depth (skipGap rest) with
          | none => none
          | some (value, rest) =>
            let members := putMember before name value
            match skipGap rest with
            | '\x7d' :: rest => some (obj members, rest)
            | ',' :: rest => readMembers depth members (skipGap rest)
            | _ => none
        | _ => none
    | _ => none

end

/-- Reads a text that is one value. -/
def read? (s : String) : Option Json :=
  let cs := skipGap s.toList
  match readValue (2 * cs.length) cs with
  | some (value, rest) => if (skipGap rest).isEmpty then some value else none
  | none => none

end ReleaseLines.Json
