import ReleaseLines.Act.Basic
import ReleaseLines.Feed.Desk

namespace ReleaseLines.Feed

/-- A client of the feed. -/
structure Client where
  address : String
  timeout : Timeout
  retries : Nat
  /-- How many microseconds a snapshot is served for. -/
  lifetime : Int
  deriving DecidableEq, Repr

/-- One hour. -/
def defaultLifetime : Int := 3600 * Instant.microsPerSecond

/-- The oldest line that is ever reported as supported. -/
def oldestLine : String := "3.9"

namespace Client

/-- Makes a client. A time limit of zero, like none at all, means the default one. -/
def make (address : String) (timeout : Option Timeout) (retries : Option Int) (lifetime : Int) :
    Except BadValue Client :=
  if retries.any (· < 0) then .error .negativeRetries
  else
    let timeout := (timeout.filter (!·.isZero)).getD defaultTimeout
    .ok ⟨address, timeout, (retries.map Int.toNat).getD defaultRetries, lifetime⟩

/-- The client of all defaults. -/
def standard : Client := ⟨defaultAddress, defaultTimeout, defaultRetries, defaultLifetime⟩

/-- How often a fetch asks at most. -/
def attempts (client : Client) : Nat := client.retries + 1

/-- How one attempt ends. -/
inductive Ending
  | obtained (catalog : Catalog)
  /-- The attempt failed and another one may be made. -/
  | failed (fault : Fault)
  /-- Something went wrong that no further attempt is made for. -/
  | escaped (fault : Fault)

/-- What a failure to get any answer means. -/
def endingOfFailure (client : Client) (fault : Fault) : Ending :=
  match fault with
  | .foreign ⟨.requestTimeout, _, _⟩ =>
    .failed (.catalog ("HTTP request timed out after " ++ client.timeout.text ++ "s"))
  | .foreign ⟨.request, _, message⟩ => .failed (.catalog ("HTTP request failed: " ++ message))
  | _ => if fault.isA .catalog then .failed fault else .escaped fault

/-- What a reply means. Only an answer of status 200 with a valid payload has a catalog. -/
def ending (client : Client) : Reply → Ending
  | .failure fault _ => client.endingOfFailure fault
  | .answer status phrase body _ =>
    if status != 200 then
      .failed (.catalog ("HTTP " ++ Numeral.intText status ++ ": " ++ phrase.getD "None"))
    else
      match body with
      | .undecodable reason => .failed (.catalog ("failed to parse JSON: " ++ reason))
      | .payload value =>
        match Payload.validate value with
        | .error fault => .failed fault
        | .ok () => .obtained (Payload.entries value)

/-- Asks for the feed once. -/
def ask (client : Client) : Act Desk Reply := do
  Act.emit (.requested client.address client.timeout)
  let reply ← Act.ask Desk.reply
  Act.modify Desk.afterReply
  return reply

/-- The seconds to wait before an attempt other than the first. -/
def pauseBefore (attempt : Nat) : Nat := Nat.pow 2 (attempt - 1)

/-- Waits before an attempt other than the first, and says so. -/
def pause (client : Client) (attempt : Nat) : Act Desk Unit :=
  if attempt == 0 then return ()
  else do
    let seconds := pauseBefore attempt
    let shown ← Act.ofValue (Numeral.write seconds)
    let this ← Act.ofValue (Numeral.write (attempt + 1))
    let all ← Act.ofValue (Numeral.write client.attempts)
    Act.log .debug ("Retrying EOL feed in " ++ shown ++ "s (attempt " ++ this ++ "/" ++ all ++ ")")
    Act.emit (.waited seconds)
    Act.modify (·.afterWait seconds)

/-- The fault after the last attempt. -/
def exhausted (client : Client) (last : Option Fault) : Fault :=
  match last with
  | none => .fetchAbandoned client.attempts
  | some fault => .fetchExhausted client.attempts fault true

/-- Makes up to `left` attempts, the first of which has the number `attempt`, counted from 0. -/
def fetchFrom (client : Client) (attempt : Nat) (last : Option Fault) :
    (left : Nat) → Act Desk Catalog
  | 0 => Act.fail (client.exhausted last)
  | left + 1 => do
    client.pause attempt
    let reply ← client.ask
    match client.ending reply with
    | .obtained catalog =>
      Act.modify (·.store catalog)
      Act.log .debug ("Fetched " ++ Numeral.natText catalog.length ++ " release cycles from " ++
        client.address)
      return catalog
    | .escaped fault => Act.fail fault
    | .failed fault =>
      let this ← Act.ofValue (Numeral.write (attempt + 1))
      let all ← Act.ofValue (Numeral.write client.attempts)
      Act.log .warning
        ("EOL feed attempt " ++ this ++ "/" ++ all ++ " failed: " ++ fault.message)
      client.fetchFrom (attempt + 1) (some fault) left

/-- The snapshot that can be served, if there is one. -/
def served? (client : Client) (desk : Desk) : Option Catalog :=
  (desk.snapshot.filter (·.isFresh desk.now client.lifetime)).map (·.catalog)

/-- The catalog: from the snapshot while it is fresh, and otherwise from the feed. -/
def fetch (client : Client) : Act Desk Catalog := do
  match ← Act.ask client.served? with
  | some catalog =>
    Act.log .debug "Cache hit (EOL feed)"
    return catalog
  | none => client.fetchFrom 0 none client.attempts

/-- Makes a client with nothing in stock and says so. -/
def prepare (settings : Settings) : Act Desk Client := do
  Act.emit (.clientMade (some settings))
  let client ← Act.ofValue
    (make settings.address (some settings.timeout) (some settings.retries) defaultLifetime)
  Act.modify fun desk => { desk with snapshot := none }
  return client

/-- Makes the client of all defaults with nothing in stock and says so. -/
def prepareStandard : Act Desk Client := do
  Act.emit (.clientMade none)
  Act.modify fun desk => { desk with snapshot := none }
  return standard

end Client

end ReleaseLines.Feed
