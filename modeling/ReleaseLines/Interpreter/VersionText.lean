import ReleaseLines.Text.Blank
import ReleaseLines.Text.DecimalDigit
import ReleaseLines.Text.Split

namespace ReleaseLines.VersionText

/-- What follows a word of lower-case letters that stands at the start in any letter case. -/
def afterWord? : (word : List Char) → List Char → Option (List Char)
  | [], cs => some cs
  | w :: word, c :: rest => if c.toLower == w then afterWord? word rest else none
  | _ :: _, [] => none

/-- Splits digits of any script off, if there are any. -/
def digits? (cs : List Char) : Option (List Char × List Char) :=
  let run := cs.takeWhile Text.isDecimalDigit
  if run.isEmpty then none else some (run, cs.dropWhile Text.isDecimalDigit)

/-- Splits a dot and digits off, if they stand at the start. -/
def dotDigits? : List Char → Option (List Char × List Char)
  | '.' :: rest => (digits? rest).map fun found => ('.' :: found.1, found.2)
  | _ => none

/-- Splits one of the letters `letters` and digits off, if they stand at the start. -/
def lettersDigits? (letters cs : List Char) : Option (List Char × List Char) := do
  let rest ← afterWord? letters cs
  let (run, rest) ← digits? rest
  return (cs.take letters.length ++ run, rest)

/-- Splits the mark of a release before the final one off, if it stands at the start. -/
def stage? (cs : List Char) : Option (List Char × List Char) :=
  (lettersDigits? ['a'] cs <|> lettersDigits? ['b'] cs) <|> lettersDigits? ['r', 'c'] cs

/-- Takes what `split` finds at the start; nothing where it finds nothing. -/
def optional (split : List Char → Option (List Char × List Char)) (cs : List Char) :
    List Char × List Char :=
  (split cs).getD ([], cs)

/-- The longest version at the start of a text: two numbers, then if present a third one, the mark
of a stage and a plus sign. -/
def atStart? (cs : List Char) : Option (List Char) := do
  let (major, rest) ← digits? cs
  let (minor, rest) ← dotDigits? rest
  let (patch, rest) := optional dotDigits? rest
  let (stage, rest) := optional stage? rest
  let plus := if rest.head? == some '+' then ['+'] else []
  return major ++ minor ++ patch ++ stage ++ plus

/-- The version after the name of the interpreter and at least one blank, all at the start. -/
def afterName? (cs : List Char) : Option (List Char) := do
  let rest ← afterWord? "python".toList cs
  if rest.head?.any Text.isBlank then atStart? (rest.dropWhile Text.isBlank) else none

/-- The version after the first place where the name of the interpreter and a version stand. -/
def search? : List Char → Option (List Char)
  | [] => none
  | c :: rest =>
    match afterName? (c :: rest) with
    | some version => some version
    | none => search? rest

/-- The first line that is not blank, without the blanks around it. -/
def firstLine? (cs : List Char) : Option (List Char) :=
  ((Text.lines cs).map Text.trim).find? (!·.isEmpty)

end ReleaseLines.VersionText
