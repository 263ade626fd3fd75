import ReleaseLines.Feed.Mark
import ReleaseLines.Json.Display
import ReleaseLines.Text.Blank
import ReleaseLines.Text.Case

namespace ReleaseLines.Feed

/-- One release line as the feed publishes it. The dates and the latest patch are kept as given. -/
structure Entry where
  cycle : String
  releaseDate : Json
  endOfLife : Mark
  latestPatch : Json
  latestReleaseDate : Json
  isLongTerm : Bool
  support : Mark
  deriving Repr

/-- Whether a value of the feed means long-term support: true, or a text that neither is blank nor
spells false. -/
def meansLongTerm : Json → Bool
  | .bool value => value
  | .str value =>
    let word := Text.lowercase (Text.trimmed value)
    word != "" && word != "false"
  | _ => false

namespace Entry

/-- The entry of an object of the feed. A missing member counts as `null`, a missing cycle as the
empty text. -/
def ofMembers (members : List (String × Json)) : Entry where
  cycle := ((members.lookup "cycle").map Json.display).getD ""
  releaseDate := Json.member members "releaseDate"
  endOfLife := Mark.ofJson (Json.member members "eol")
  latestPatch := Json.member members "latest"
  latestReleaseDate := Json.member members "latestReleaseDate"
  isLongTerm := meansLongTerm (Json.member members "lts")
  support := Mark.ofJson (Json.member members "support")

/-- The entry of a feed item; one that is no object has no members. -/
def ofJson : Json → Entry
  | .obj members => ofMembers members
  | _ => ofMembers []

/-- How the end of the line is shown on a day. -/
def describe (entry : Entry) (today : Date) : String :=
  match entry.endOfLife with
  | .unknown => "supported"
  | .date published =>
    match Date.read? published with
    | none => "supported"
    | some ending =>
      if ending ≤ today then "EOL since " ++ published else "supported until " ++ published
  | .flag ended => if ended then "EOL (no date recorded)" else "supported"

end Entry

/-- The entries of the feed, in feed order. -/
abbrev Catalog := List Entry

namespace Catalog

/-- The first entry of a cycle. -/
def find? (catalog : Catalog) (cycle : String) : Option Entry :=
  List.find? (·.cycle == cycle) catalog

def cycles (catalog : Catalog) : List String := catalog.map (·.cycle)

end Catalog

end ReleaseLines.Feed
