import ReleaseLines.Binary64.Basic

namespace ReleaseLines

/-- A decoded JSON value. An object keeps its members in the order given. -/
inductive Json
  | null
  | bool (value : Bool)
  | int (value : Int)
  | real (value : Binary64)
  | str (value : String)
  | arr (items : List Json)
  | obj (members : List (String × Json))
  deriving Repr, Inhabited

namespace Json

/-- The member of that name, or `null` where there is none. -/
def member (members : List (String × Json)) (name : String) : Json :=
  (members.lookup name).getD null

/-- Whether the value says something: `null`, false, zero and empty values do not. -/
def isTelling : Json → Bool
  | null => false
  | bool value => value
  | int value => value != 0
  | real value => !value.isZero
  | str value => value != ""
  | arr items => !items.isEmpty
  | obj members => !members.isEmpty

/-- An array of texts. -/
def texts (values : List String) : Json := arr (values.map str)

end Json

end ReleaseLines
