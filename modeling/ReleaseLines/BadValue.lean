import ReleaseLines.Text.Quoted

namespace ReleaseLines

/-- Why a text or a number cannot be used as the value it stands for. -/
inductive BadValue
  | notMajorMinor (text : String)
  | notInteger (text : String)
  | tooManyDigits (count : Nat)
  | tooLongToWrite
  | unknownOperator (symbol : String)
  | negativeRetries
  | misplacedBracket
  | malformedVersionedHost
  | bracketedQuad
  | notNetworkAddress (text : String)
  | ambiguousHost (host : String)
  | unknownLevel (name : String)
  deriving DecidableEq, Repr

namespace BadValue

/-- How many characters of a text that is no integer are shown. -/
def shownLength : Nat := 200

def message : BadValue → String
  | notMajorMinor text => "not a major.minor version: " ++ Text.quoted text
  | notInteger text =>
    "invalid literal for int() with base 10: " ++
      String.ofList ((Text.quotedChars text.toList).take shownLength)
  | tooManyDigits count =>
    "Exceeds the limit (4300 digits) for integer string conversion: value has " ++
      toString count ++ " digits; use sys.set_int_max_str_digits() to increase the limit"
  | tooLongToWrite =>
    "Exceeds the limit (4300 digits) for integer string conversion; " ++
      "use sys.set_int_max_str_digits() to increase the limit"
  | unknownOperator symbol => Text.quoted symbol ++ " is not a valid Operator"
  | negativeRetries => "max_retries must not be negative"
  | misplacedBracket => "Invalid IPv6 URL"
  | malformedVersionedHost => "IPvFuture address is invalid"
  | bracketedQuad => "An IPv4 address cannot be in brackets"
  | notNetworkAddress text =>
    Text.quoted text ++ " does not appear to be an IPv4 or IPv6 address"
  | ambiguousHost host =>
    "netloc '" ++ host ++ "' contains invalid characters under NFKC normalization"
  | unknownLevel name => "Unknown level: " ++ Text.quoted name

end BadValue

end ReleaseLines
