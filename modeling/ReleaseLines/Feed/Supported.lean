import ReleaseLines.Feed.Client
import ReleaseLines.Version

namespace ReleaseLines.Feed

/-- Where a cycle stands on the day of the clock. An end that is no date is noted in the log. -/
def standing (cycle : String) (catalog : Catalog) : Act Desk Standing := do
  let today ← Act.ask Desk.today
  let standing : Standing :=
    match catalog.find? cycle with
    | none => .live
    | some entry => entry.endOfLife.standing today
  match standing with
  | .unreadable published =>
    Act.log .debug ("Unparsable EOL date for " ++ cycle ++ ": " ++ Text.quoted published ++
      ", assuming supported")
    return standing
  | _ => return standing

/-- Whether a cycle has reached its end, and the end as published. -/
def isEnded (cycle : String) (catalog : Catalog) : Act Desk (Bool × String) := do
  match ← standing cycle catalog with
  | .ended since => return (true, since)
  | _ => return (false, "")

/-- The cycles of `entries` that are at least `minimum` and have not reached their end in a
catalog, in feed order. -/
def liveCycles (catalog : Catalog) (minimum : String) : List Entry → Act Desk (List String)
  | [] => return []
  | entry :: rest =>
    if Version.isAtLeast entry.cycle minimum then do
      let (ended, _) ← isEnded entry.cycle catalog
      let others ← liveCycles catalog minimum rest
      return if ended then others else entry.cycle :: others
    else liveCycles catalog minimum rest

/-- The cycles of the feed that are at least `minimum` and have not reached their end. -/
def Client.supported (client : Client) (minimum : String) : Act Desk (List String) := do
  let catalog ← client.fetch
  liveCycles catalog minimum catalog

end ReleaseLines.Feed
