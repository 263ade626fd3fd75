import ReleaseLines.Binary64.Shortest

namespace ReleaseLines

/-- How many seconds a request may take. -/
inductive Timeout
  | whole (seconds : Int)
  | real (seconds : Binary64)
  deriving DecidableEq, Repr

namespace Timeout

def text : Timeout → String
  | whole seconds => Numeral.intText seconds
  | real seconds => seconds.text

def isZero : Timeout → Bool
  | whole seconds => seconds == 0
  | real seconds => seconds.isZero

/-- Whether the time is zero or less. This is false of what is not a number. -/
def isAtMostZero : Timeout → Bool
  | whole seconds => seconds ≤ 0
  | real seconds => seconds.isAtMostZero

end Timeout

end ReleaseLines
