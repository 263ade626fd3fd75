import ReleaseLines.Fault
import ReleaseLines.Feed.Entry

namespace ReleaseLines.Feed

/-- The types of value that the feed's rules tell apart. -/
inductive ValueType
  | string
  | boolean
  | null
  | array
  | object
  deriving DecidableEq, Repr

namespace ValueType

def name : ValueType → String
  | string => "string"
  | boolean => "boolean"
  | null => "null"
  | array => "array"
  | object => "object"

/-- Whether a value is of the type. A number is of none of them. -/
def admits : ValueType → Json → Bool
  | string, .str _ => true
  | boolean, .bool _ => true
  | null, .null => true
  | array, .arr _ => true
  | object, .obj _ => true
  | _, _ => false

end ValueType

/-- A step from a value to one inside it. -/
inductive Step
  | item (index : Nat)
  | member (name : String)
  deriving DecidableEq, Repr

namespace Step

def text : Step → String
  | item index => Numeral.natText index
  | member name => name

/-- Items by number, members by name, and items before members. -/
def order : Step → Step → Ordering
  | item a, item b => compare a b
  | member a, member b => compare a b
  | item _, member _ => .lt
  | member _, item _ => .gt

/-- Paths step by step; of two that agree the longer one is greater. -/
def pathOrder : List Step → List Step → Ordering
  | [], [] => .eq
  | [], _ :: _ => .lt
  | _ :: _, [] => .gt
  | a :: as, b :: bs => (a.order b).then (pathOrder as bs)

end Step

/-- A place where a payload breaks the feed's rules, and how it does. -/
structure Violation where
  path : List Step
  text : String
  deriving DecidableEq, Repr

namespace Violation

/-- Whether one violation is reported rather than another: that with the shorter path, and of two
equally long paths the greater one. -/
def precedes (a b : Violation) : Bool :=
  if a.path.length == b.path.length then Step.pathOrder a.path b.path == .gt
  else a.path.length < b.path.length

/-- The violation that is reported; of equal ones the first. -/
def foremost : List Violation → Option Violation
  | [] => none
  | v :: rest =>
    match foremost rest with
    | none => some v
    | some other => if other.precedes v then some other else some v

def message (v : Violation) : String :=
  "EOL feed failed schema validation: " ++ v.text ++
    (if v.path.isEmpty then ""
    else " (at " ++ String.intercalate "." (v.path.map Step.text) ++ ")")

end Violation

namespace Payload

/-- The violation of a value that is of none of the types. -/
def typeViolations (path : List Step) (types : List ValueType) (value : Json) : List Violation :=
  if types.any (·.admits value) then []
  else
    let names := String.intercalate ", " (types.map fun type => Text.quoted type.name)
    [⟨path, value.literal ++ " is not of type " ++ names⟩]

/-- The types of the members that are looked at. -/
def memberTypes : List (String × List ValueType) :=
  [("cycle", [.string]),
   ("releaseDate", [.string, .null]),
   ("eol", [.string, .boolean, .null]),
   ("support", [.string, .boolean, .null]),
   ("latest", [.string, .null]),
   ("latestReleaseDate", [.string, .null]),
   ("lts", [.boolean, .string, .null])]

/-- The violations of a member that is present. -/
def memberViolations (path : List Step) (members : List (String × Json))
    (rule : String × List ValueType) : List Violation :=
  match members.lookup rule.1 with
  | none => []
  | some value => typeViolations (path ++ [.member rule.1]) rule.2 value

/-- The violations of a cycle that is missing or empty. -/
def cycleViolations (path : List Step) (members : List (String × Json)) : List Violation :=
  match members.lookup "cycle" with
  | none => [⟨path, "'cycle' is a required property"⟩]
  | some (.str "") => [⟨path ++ [.member "cycle"], "'' should be non-empty"⟩]
  | some _ => []

def itemViolations (path : List Step) : Json → List Violation
  | .obj members =>
    cycleViolations path members ++ memberTypes.flatMap (memberViolations path members)
  | item => typeViolations path [.object] item

/-- The violations of the items from a number on. -/
def itemsViolations (index : Nat) : List Json → List Violation
  | [] => []
  | item :: rest => itemViolations [.item index] item ++ itemsViolations (index + 1) rest

def violations : Json → List Violation
  | .arr items => itemsViolations 0 items
  | value => typeViolations [] [.array] value

/-- Accepts an array of one object or more in which every rule is kept. -/
def validate (payload : Json) : Except Fault Unit :=
  match payload with
  | .arr [] => .error (.catalog "received empty data array")
  | _ =>
    match Violation.foremost (violations payload) with
    | none => .ok ()
    | some v => .error (.catalog v.message)

/-- The entries of an array. -/
def entries : Json → Catalog
  | .arr items => items.map Entry.ofJson
  | _ => []

end Payload

end ReleaseLines.Feed
