import ReleaseLines.Calendar.Instant
import ReleaseLines.Feed.Payload

namespace ReleaseLines.Feed

/-- What the body of an answer holds. -/
inductive Body
  | payload (value : Json)
  | undecodable (reason : String)
  deriving Repr

/-- What comes back when the feed is asked for, and after how many microseconds. -/
inductive Reply
  | answer (status : Int) (phrase : Option String) (body : Body) (delay : Nat := 0)
  | failure (fault : Fault) (delay : Nat := 0)
  deriving Repr

/-- How many microseconds a reply takes to come. -/
def Reply.delay : Reply → Nat
  | answer _ _ _ delay => delay
  | failure _ delay => delay

/-- The catalog fetched last and when it was. -/
structure Snapshot where
  catalog : Catalog
  fetchedAt : Instant
  deriving Repr

namespace Snapshot

/-- A snapshot is served until its lifetime has passed. -/
def isFresh (snapshot : Snapshot) (now : Instant) (lifetime : Int) : Bool :=
  now.micros - snapshot.fetchedAt.micros < lifetime

end Snapshot

/-- What a client keeps and what surrounds it: the snapshot, the clock, whether a wait between two
attempts moves the clock, and the replies to come, of which the last is given for ever. -/
structure Desk where
  snapshot : Option Snapshot
  now : Instant
  waitingMoves : Bool
  replies : List Reply
  deriving Repr

namespace Desk

/-- The reply where none was foreseen. -/
def silence : Reply :=
  .failure (.foreign ⟨.request, "ConnectionError", "no response scripted"⟩)

/-- Without a network every request fails. -/
def unconnected : Desk :=
  ⟨none, .epoch, false, [.failure (.foreign ⟨.request, "ConnectionError", "no network"⟩)]⟩

/-- The next reply. -/
def reply (desk : Desk) : Reply := desk.replies.headD silence

/-- The replies that are left once one was taken. -/
def laterReplies (desk : Desk) : List Reply :=
  match desk.replies with
  | _ :: second :: rest => second :: rest
  | replies => replies

/-- The desk after a reply was waited for and taken. -/
def afterReply (desk : Desk) : Desk :=
  { desk with now := desk.now.after desk.reply.delay, replies := desk.laterReplies }

/-- The desk after a wait. -/
def afterWait (desk : Desk) (seconds : Nat) : Desk :=
  if desk.waitingMoves then
    { desk with now := desk.now.after (seconds * Instant.microsPerSecond) }
  else desk

def store (desk : Desk) (catalog : Catalog) : Desk :=
  { desk with snapshot := some ⟨catalog, desk.now⟩ }

def today (desk : Desk) : Date := desk.now.date

end Desk

end ReleaseLines.Feed
