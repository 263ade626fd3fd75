namespace ReleaseLines.Feed

/-- The lines to use where the feed says nothing, oldest first. -/
def fallbackLines : List String := ["3.9", "3.10", "3.11", "3.12", "3.13", "3.14"]

/-- When the list of lines to fall back on was last looked over. -/
def fallbackReviewed : String := "2025-10-07"

end ReleaseLines.Feed
