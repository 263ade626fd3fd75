namespace ReleaseLines.Package

/-- The version of this program. -/
def version : String := "0.1.0"

/-- The version that is known of an installed program: that of its record, else that of its
description. -/
def knownVersion (record description : Option String) : String :=
  (record <|> description).getD "unknown"

/-- The name under which requests are made. -/
def userAgent : String := "version-matrix-action/" ++ version

/-- What is sent ahead of every request. -/
def requestHeaders : List (String × String) :=
  [("User-Agent", userAgent), ("Accept", "application/json")]

end ReleaseLines.Package
