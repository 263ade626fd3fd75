import ReleaseLines.CommandLine.Option
import ReleaseLines.Text.Similarity

namespace ReleaseLines.CommandLine

/-- Why a command line cannot be read. Beside an unknown name stand the known ones close to it. -/
inductive Complaint
  | unknownOption (name : String) (close : List String)
  | missingValue (name : String)
  | unwantedValue (name : String)
  | badValue (parameter : Parameter) (reason : String)
  | unknownCommand (name : String) (close : List String)
  deriving DecidableEq, Repr

namespace Complaint

/-- The question whether one of some names was meant. -/
def suggestion : List String → String
  | [] => ""
  | [name] => " Did you mean " ++ Text.quoted name ++ "?"
  | names => " (Did you mean one of: " ++ Text.listed (names.map Text.quoted) ++ "?)"

def message : Complaint → String
  | unknownOption name close => "No such option " ++ Text.quoted name ++ "." ++ suggestion close
  | missingValue name => "Option " ++ Text.quoted name ++ " requires an argument."
  | unwantedValue name => "Option " ++ Text.quoted name ++ " does not take a value."
  | badValue parameter reason => "Invalid value for " ++ parameter.hint ++ ": " ++ reason
  | unknownCommand name close =>
    "No such command " ++ Text.quoted name ++ "." ++ suggestion close

/-- Whether the complaint comes with a reminder of how the command is used. -/
def remindsOfUsage : Complaint → Bool
  | missingValue _ | unwantedValue _ => false
  | _ => true

end Complaint

/-- What a command line says: the options in order, and the words that are none. -/
structure Reading where
  given : List (Parameter × Given)
  words : List String
  deriving DecidableEq, Repr

namespace Reading

/-- The value of a parameter: of several the last. -/
def value? (reading : Reading) (parameter : Parameter) : Option Given :=
  (reading.given.reverse.find? (·.1 == parameter)).map (·.2)

/-- The place at which a parameter is first given; one that is not given comes after all others. -/
def place (reading : Reading) (parameter : Parameter) : Nat :=
  reading.given.findIdx (·.1 == parameter)

/-- The parameters in the order in which they are answered: first those that end the program, then
those that are given as they are given, then the rest in their own order. -/
def schedule (reading : Reading) (parameters : List Parameter) : List Parameter :=
  let rank (p : Parameter) : Nat × Nat := (if p.isEager then 0 else 1, reading.place p)
  parameters.mergeSort fun a b =>
    (rank a).1 < (rank b).1 || ((rank a).1 == (rank b).1 && (rank a).2 ≤ (rank b).2)

end Reading

/-- The options in a cluster of one-letter options, and the arguments after it. The first option
that takes a value takes the rest of the cluster, or the next argument where none is left. -/
def readCluster (options : OptionTable) (rest : List String) :
    (letters : List Char) → Except Complaint (List (Parameter × Given) × List String)
  | [] => .ok ([], rest)
  | letter :: letters =>
    let name := String.ofList ['-', letter]
    match options.lookup name with
    | none => .error (.unknownOption name [])
    | some (parameter, .switch on) => do
      let (given, rest) ← readCluster options rest letters
      return ((parameter, .switched on) :: given, rest)
    | some (parameter, .value) =>
      if letters.isEmpty then
        match rest with
        | [] => .error (.missingValue name)
        | value :: rest => .ok ([(parameter, .text value)], rest)
      else .ok ([(parameter, .text (String.ofList letters))], rest)

/-- What an option with a long name gives, and the arguments after it and after its value. A value
may be attached to the name. -/
def readLong (options : OptionTable) (rest : List String) (name : String)
    (attached : Option String) : Except Complaint (List (Parameter × Given) × List String) :=
  match options.lookup name, attached with
  | none, _ => .error (.unknownOption name (Text.closeWords options.longNames name))
  | some (parameter, .value), some value => .ok ([(parameter, .text value)], rest)
  | some (parameter, .value), none =>
    match rest with
    | [] => .error (.missingValue name)
    | value :: rest => .ok ([(parameter, .text value)], rest)
  | some (_, .switch _), some _ => .error (.unwantedValue name)
  | some (parameter, .switch on), none => .ok ([(parameter, .switched on)], rest)

/-- What an argument that is an option gives, and the arguments after it and after its value. Two
hyphens begin a long name, and one a cluster of letters. -/
def readOption (options : OptionTable) (argument : String) (rest : List String) :
    Except Complaint (List (Parameter × Given) × List String) :=
  match argument.toList with
  | '-' :: '-' :: _ =>
    let (name, attached) := Text.cut '=' argument.toList
    readLong options rest (String.ofList name) (attached.map String.ofList)
  | cs => readCluster options rest (cs.drop 1)

theorem readCluster_length {options : OptionTable} {rest after : List String}
    {letters : List Char} {given : List (Parameter × Given)}
    (h : readCluster options rest letters = .ok (given, after)) :
    after.length ≤ rest.length := by
  induction letters generalizing given after with
  | nil =>
    simp only [readCluster, Except.ok.injEq, Prod.mk.injEq] at h
    obtain ⟨_, rfl⟩ := h
    exact Nat.le_refl _
  | cons letter letters ih =>
    unfold readCluster at h
    simp only at h
    split at h
    · cases h
    · cases hr : readCluster options rest letters with
      | error e => simp [hr, bind, Except.bind] at h
      | ok found =>
        obtain ⟨others, left⟩ := found
        simp only [hr, bind, Except.bind, pure, Except.pure, Except.ok.injEq,
          Prod.mk.injEq] at h
        obtain ⟨_, rfl⟩ := h
        exact ih hr
    · split at h
      · split at h
        · cases h
        · simp only [Except.ok.injEq, Prod.mk.injEq] at h
          obtain ⟨_, rfl⟩ := h
          simp
      · simp only [Except.ok.injEq, Prod.mk.injEq] at h
        obtain ⟨_, rfl⟩ := h
        exact Nat.le_refl _

theorem readLong_length {options : OptionTable} {rest after : List String} {name : String}
    {attached : Option String} {given : List (Parameter × Given)}
    (h : readLong options rest name attached = .ok (given, after)) :
    after.length ≤ rest.length := by
  unfold readLong at h
  split at h
  · cases h
  · simp only [Except.ok.injEq, Prod.mk.injEq] at h
    obtain ⟨_, rfl⟩ := h
    exact Nat.le_refl _
  · split at h
    · cases h
    · simp only [Except.ok.injEq, Prod.mk.injEq] at h
      obtain ⟨_, rfl⟩ := h
      simp
  · cases h
  · simp only [Except.ok.injEq, Prod.mk.injEq] at h
    obtain ⟨_, rfl⟩ := h
    exact Nat.le_refl _

theorem readOption_length {options : OptionTable} {argument : String} {rest after : List String}
    {given : List (Parameter × Given)}
    (h : readOption options argument rest = .ok (given, after)) :
    after.length ≤ rest.length := by
  unfold readOption at h
  split at h
  · exact readLong_length h
  · exact readCluster_length h

/-- Whether an argument is read as an option: a hyphen and something after it. -/
def isOption (argument : String) : Bool :=
  argument.toList.head? == some '-' && 1 < argument.length

/-- Reads the options up to two hyphens. A word that is no option ends the options too, unless
`scattered` allows options after it. -/
def readArguments (options : OptionTable) (scattered : Bool) (arguments : List String) :
    Except Complaint Reading :=
  match arguments with
  | [] => .ok ⟨[], []⟩
  | argument :: rest =>
    if argument == "--" then .ok ⟨[], rest⟩
    else if isOption argument then
      match _ : readOption options argument rest with
      | .error complaint => .error complaint
      | .ok (given, after) => do
        let reading ← readArguments options scattered after
        return ⟨given ++ reading.given, reading.words⟩
    else if scattered then do
      let reading ← readArguments options scattered rest
      return ⟨reading.given, argument :: reading.words⟩
    else .ok ⟨[], argument :: rest⟩
termination_by arguments.length
decreasing_by
  · have := readOption_length (by assumption)
    simp only [List.length_cons]
    omega
  · simp

end ReleaseLines.CommandLine
