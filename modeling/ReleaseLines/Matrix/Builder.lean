import ReleaseLines.Constraint.Expression
import ReleaseLines.Constraint.Matching
import ReleaseLines.Feed.Fallback
import ReleaseLines.Feed.Supported
import ReleaseLines.Matrix.Basic

namespace ReleaseLines

variable {σ : Type}

/-- The candidates that an expression admits; there must be one. -/
def resolve (expression : String) (candidates : List String) : Act σ (List String) := do
  if expression == "" then Act.fail .emptyRequirement
  else if candidates.isEmpty then Act.fail .noCandidatesLeft
  else
    let constraints ← Act.ofExcept (Expression.read expression)
    Act.log .debug ("Parsed '" ++ expression ++ "' into: " ++
      Text.listed (constraints.map Constraint.text))
    let selected ← Act.ofValue (Constraint.select candidates constraints)
    if selected.isEmpty then Act.fail (.noMatch expression) else return selected

/-- Where the lines that are supported today come from. -/
structure Provider (σ : Type) where
  supported : Act σ (List String)
  fallback : Act σ (List String)

/-- The feed, and the built-in list behind it. -/
def Feed.Client.provider (client : Feed.Client) : Provider Feed.Desk where
  supported := client.supported Feed.oldestLine
  fallback := return Feed.fallbackLines

namespace Provider

/-- The lines to fall back on, in order. -/
def fallbackCandidates (provider : Provider σ) : Act σ (List String × String) := do
  let lines ← provider.fallback
  let sorted ← Act.ofValue (sortLines lines)
  return (sorted, SupportMatrix.fallbackSource)

/-- The lines to choose from, in order, and their source: those that are supported, or those to
fall back on when offline, when asking fails or when none are supported. -/
def candidates (provider : Provider σ) (offline : Bool) : Act σ (List String × String) :=
  if offline then do
    Act.log .info "Offline mode: using fallback Python versions"
    provider.fallbackCandidates
  else
    provider.supported.either fun
      | .error fault =>
        if fault.isA .general then do
          Act.log .warning ("Could not fetch Python EOL data, using fallback versions: " ++
            fault.message)
          provider.fallbackCandidates
        else Act.fail fault
      | .ok [] => do
        Act.log .warning
          "EOL feed reported no supported Python versions, using fallback versions"
        provider.fallbackCandidates
      | .ok lines => do
        let sorted ← Act.ofValue (sortLines lines)
        return (sorted, SupportMatrix.feedSource)

end Provider

namespace SupportMatrix

/-- The lines to choose from where there may be no provider. -/
def candidatesOf (provider : Option (Provider σ)) (offline : Bool) :
    Act σ (List String × String) :=
  match provider with
  | none => do
    let sorted ← Act.ofValue (sortLines Feed.fallbackLines)
    return (sorted, fallbackSource)
  | some provider => provider.candidates offline

/-- The matrix of an expression. The expression is read before anything else is asked for. -/
def build (expression : String) (provider : Option (Provider σ)) (offline : Bool) :
    Act σ SupportMatrix := do
  let _ ← Act.ofExcept (Expression.read expression)
  let (candidates, source) ← candidatesOf provider offline
  let versions ← resolve expression candidates
  Act.log .info ("Python support matrix for '" ++ expression ++ "': " ++ Text.listed versions ++
    " (source: " ++ source ++ ")")
  return ⟨versions, expression, source, candidates⟩

/-- The lines of the matrix of an expression. -/
def compute (expression : String) (provider : Provider σ) : Act σ (List String) := do
  let matrix ← build expression (some provider) false
  return matrix.versions

end SupportMatrix

end ReleaseLines
