import ReleaseLines.Calendar.DateReader
import ReleaseLines.Json.Basic

namespace ReleaseLines.Feed

/-- What the feed says about the end of a line: nothing, the date of the end as published, or
whether the end has come. -/
inductive Mark
  | unknown
  | date (published : String)
  | flag (ended : Bool)
  deriving DecidableEq, Repr

namespace Mark

def ofJson : Json → Mark
  | .bool value => flag value
  | .str value => date value
  | _ => unknown

/-- The date of the end, where it is published in a readable form. -/
def date? : Mark → Option Date
  | date published => Date.read? published
  | _ => none

end Mark

/-- Where a line stands on a day. -/
inductive Standing
  | live
  /-- The end is published in a form that is no date; the line counts as live. -/
  | unreadable (published : String)
  | ended (since : String)
  deriving DecidableEq, Repr

/-- A line ends on the day of its date, or at once where only the fact is published. -/
def Mark.standing (today : Date) : Mark → Standing
  | unknown => .live
  | date published =>
    match Date.read? published with
    | none => .unreadable published
    | some ending => if ending ≤ today then .ended published else .live
  | flag ended => if ended then .ended "true" else .live

end ReleaseLines.Feed
