import ReleaseLines.BadValue
import ReleaseLines.Text.Blank
import ReleaseLines.Text.DecimalDigit
import ReleaseLines.Text.Split

namespace ReleaseLines.Numeral

/-- The most digits of an integer that are read or written. -/
def digitLimit : Nat := 4300

def digitChar (d : Nat) : Char := Char.ofNat (48 + d)

/-- The decimal digits of a number, in front of `rest`. -/
def digitsOnto (n : Nat) (rest : List Char) : List Char :=
  if n < 10 then digitChar n :: rest
  else digitsOnto (n / 10) (digitChar (n % 10) :: rest)

/-- The decimal digits of a number, without leading zeros. -/
def digits (n : Nat) : List Char := digitsOnto n []

def natText (n : Nat) : String := String.ofList (digits n)

def intText : Int → String
  | .ofNat n => natText n
  | .negSucc n => "-" ++ natText (n + 1)

/-- A one and `k` zeros. -/
def powerOfTen (k : Nat) : Nat := Nat.pow 10 k

/-- The digits of an integer, unless there are too many of them. -/
def write (n : Int) : Except BadValue String :=
  if n.natAbs < powerOfTen digitLimit then .ok (intText n) else .error .tooLongToWrite

/-- The number that a list of digit values stands for. -/
def valueOf (values : List Nat) : Nat :=
  values.foldl (fun total d => 10 * total + d) 0

/-- A blank that may surround a numeral: any but the four information separators. -/
def isOuterBlank (c : Char) : Bool :=
  Text.isBlank c && !(0x1C ≤ c.toNat && c.toNat ≤ 0x1F)

/-- A digit of any script, or the underscore that may stand between two digits. -/
def isBodyChar (c : Char) : Bool := Text.isDecimalDigit c || c == '_'

/-- Whether a run of digits and underscores starts and ends with a digit and has no two
underscores in a row. -/
def isWellSpaced (body : List Char) : Bool :=
  (Text.pieces (· == '_') body).all (!·.isEmpty)

/-- Takes a sign off: whether it was a minus, and what follows it. -/
def signed : List Char → Bool × List Char
  | '-' :: rest => (true, rest)
  | '+' :: rest => (false, rest)
  | cs => (false, cs)

/-- Reads an integer between optional blanks: a sign, then digits of any script that single
underscores may separate. The digits are counted before anything after them is looked at. -/
def read (cs : List Char) : Except BadValue Int :=
  let (negative, start) := signed (cs.dropWhile isOuterBlank)
  let body := start.takeWhile isBodyChar
  let values := body.filterMap Text.digitValue?
  if !isWellSpaced body then .error (.notInteger (String.ofList cs))
  else if digitLimit < values.length then .error (.tooManyDigits values.length)
  else if !(start.dropWhile isBodyChar).all isOuterBlank then
    .error (.notInteger (String.ofList cs))
  else if negative then .ok (-(valueOf values : Int))
  else .ok (valueOf values)

end ReleaseLines.Numeral
