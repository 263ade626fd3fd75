import ReleaseLines.Fault

namespace ReleaseLines

/-- The files that are known with their contents, each by the path that leads to it from the working
directory or from the root. As in an archive, a path that ends in a slash stands for a directory. -/
abbrev Files := List (String × String)

/-- A directory or a file by the steps that lead to it from the working directory or the root. -/
structure Place where
  isRooted : Bool
  steps : List String
  deriving DecidableEq, Repr

namespace Place

/-- The directory above a place; nothing is above the root. -/
def parent (place : Place) : Place :=
  if !place.isRooted && place.steps.all (· == "..") then
    { place with steps := ".." :: place.steps }
  else { place with steps := place.steps.dropLast }

/-- Where a step leads to. -/
def enter (place : Place) (step : String) : Place :=
  if step == "." then place
  else if step == ".." then place.parent
  else { place with steps := place.steps ++ [step] }

/-- The places that some steps lead through, the first and the last one included. -/
def through (place : Place) : List String → List Place
  | [] => [place]
  | step :: rest => place :: (place.enter step).through rest

/-- The root, the working directory and the directories above it are always there. -/
def isGiven (place : Place) : Bool := place.steps.all (· == "..")

def path (place : Place) : String :=
  (if place.isRooted then "/" else "") ++ String.intercalate "/" place.steps

end Place

namespace Files

/-- The most bytes that a name takes. -/
def nameLimit : Nat := 255

/-- The fewest bytes that are too many for a path. -/
def pathLimit : Nat := 4096

/-- The content of a file. -/
def content? (files : Files) (name : String) : Option String := files.lookup name

/-- The names that a path leads through, the last one included. -/
def stepsOf (path : String) : List String :=
  ((Text.pieces (· == '/') path.toList).filter (· != [])).map String.ofList

/-- Where a path starts. -/
def startOf (path : String) : Place := ⟨path.toList.head? == some '/', []⟩

def endsInSlash (path : String) : Bool := path.toList.getLast? == some '/'

/-- The directories that a path leads through. -/
def placesOf (path : String) : List Place :=
  (startOf path).through (if endsInSlash path then stepsOf path else (stepsOf path).dropLast)

/-- Whether a directory exists: it is always there, or a known path leads through it. -/
def hasDirectory (files : Files) (place : Place) : Bool :=
  place.isGiven || files.any fun file => (placesOf file.1).contains place

/-- The directory that one step of a path leads to. -/
def enter (files : Files) (path : String) (place : Place) (step : String) :
    Except FileFault Place :=
  if step == "." || step == ".." then .ok (place.enter step)
  else if nameLimit < step.utf8ByteSize then .error (.nameTooLong path)
  else if files.hasDirectory (place.enter step) then .ok (place.enter step)
  else if (files.content? (place.enter step).path).isSome then .error (.notDirectory path)
  else .error (.missing path)

/-- The path that the file a path leads to is known by, if it can be opened for writing. A file that
is missing is made, but no directory is. -/
def target (files : Files) (path : String) : Except FileFault String :=
  if path.toList.contains (Char.ofNat 0) then .error .embeddedZero
  else if path == "" then .error (.missing path)
  else if pathLimit ≤ path.utf8ByteSize then .error (.nameTooLong path)
  else if !endsInSlash path && (files.content? path).isSome then .ok path
  else do
    let steps := stepsOf path
    let place ← steps.dropLast.foldlM (files.enter path) (startOf path)
    match steps.getLast? with
    | none => .error (.isDirectory path)
    | some name =>
      if name == "." || name == ".." || endsInSlash path then .error (.isDirectory path)
      else if nameLimit < name.utf8ByteSize then .error (.nameTooLong path)
      else if files.hasDirectory (place.enter name) then .error (.isDirectory path)
      else .ok (place.enter name).path

/-- The files after a text was added at the end of one of them, which is made if it is missing. -/
def append (files : Files) (name text : String) : Files :=
  match files with
  | [] => [(name, text)]
  | file :: rest =>
    if file.1 == name then (name, file.2 ++ text) :: rest else file :: append rest name text

end Files

end ReleaseLines
