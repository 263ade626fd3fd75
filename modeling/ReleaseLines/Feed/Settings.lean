import ReleaseLines.Timeout

namespace ReleaseLines.Feed

def defaultAddress : String := "https://endoflife.date/api/python.json"

def defaultTimeout : Timeout := .whole 6

def defaultRetries : Nat := 2

/-- How a feed client was asked for. -/
structure Settings where
  address : String
  timeout : Timeout
  retries : Int
  deriving DecidableEq, Repr

end ReleaseLines.Feed
