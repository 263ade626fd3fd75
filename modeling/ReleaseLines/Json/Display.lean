import ReleaseLines.Binary64.Shortest
import ReleaseLines.Json.Basic
import ReleaseLines.Text.Quoted

namespace ReleaseLines.Json

mutual

/-- The value as it is quoted in a message: texts between quotes, and `None`, `True` and `False`
for the three constants. Every integer is written out: a body with one of more digits than
`Numeral.digitLimit` is undecodable, so that no payload holds such a one. -/
def literal : Json → String
  | null => "None"
  | bool true => "True"
  | bool false => "False"
  | int value => Numeral.intText value
  | real value => value.text
  | str value => Text.quoted value
  | arr items => "[" ++ String.intercalate ", " (literals items) ++ "]"
  | obj members => "\x7b" ++ String.intercalate ", " (memberLiterals members) ++ "\x7d"

def literals : List Json → List String
  | [] => []
  | item :: rest => literal item :: literals rest

def memberLiterals : List (String × Json) → List String
  | [] => []
  | (name, value) :: rest => (Text.quoted name ++ ": " ++ literal value) :: memberLiterals rest

end

/-- The value as it is shown to a reader: a text as it is, and all else as it is quoted. -/
def display : Json → String
  | str value => value
  | value => literal value

/-- What several values say together: nothing if there are none, the value itself if there is one,
and otherwise all of them in parentheses. -/
def remark : List Json → String
  | [] => ""
  | [value] => display value
  | values => "(" ++ String.intercalate ", " (literals values) ++ ")"

end ReleaseLines.Json
