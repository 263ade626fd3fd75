import ReleaseLines.Feed.Client
import ReleaseLines.Proofs.Act.Keeps

namespace ReleaseLines.Feed

namespace Reply

/-- The payload of an answer with status 200 that keeps the rules of the feed. -/
def accepted? : Reply → Option Json
  | .answer status _ (.payload value) _ =>
    if status = 200 then
      match Payload.validate value with
      | .ok () => some value
      | .error _ => none
    else none
  | _ => none

end Reply

namespace Desk

/-- The replies to so many requests from now on. -/
def received (desk : Desk) : (count : Nat) → List Reply
  | 0 => []
  | count + 1 => desk.reply :: desk.afterReply.received count

/-- The payloads that were accepted while something was done. -/
def accepted {α : Type} (desk : Desk) (outcome : Outcome Desk α) : List Json :=
  (desk.received (Event.requests outcome.events).length).filterMap Reply.accepted?

theorem afterReply_congr {desk other : Desk} (h : desk.replies = other.replies) :
    desk.afterReply.replies = other.afterReply.replies := by
  rw [afterReply, afterReply, laterReplies, laterReplies, h]

theorem received_congr {desk other : Desk} (h : desk.replies = other.replies) (count : Nat) :
    desk.received count = other.received count := by
  induction count generalizing desk other with
  | zero => rfl
  | succ count ih => rw [received, received, ih (afterReply_congr h), reply, reply, h]

theorem afterWait_replies (desk : Desk) (seconds : Nat) :
    (desk.afterWait seconds).replies = desk.replies := by
  unfold afterWait
  split <;> rfl

theorem afterReply_snapshot (desk : Desk) : desk.afterReply.snapshot = desk.snapshot := rfl

theorem accepted_eq_nil {α : Type} {desk : Desk} {outcome : Outcome Desk α}
    (h : Event.requests outcome.events = []) : desk.accepted outcome = [] := by
  rw [accepted, h]
  rfl

end Desk

namespace Client

theorem ending_of_accepted? (client : Client) {reply : Reply} {payload : Json}
    (h : reply.accepted? = some payload) :
    client.ending reply = .obtained (Payload.entries payload) := by
  unfold Reply.accepted? at h
  split at h
  next status phrase value delay =>
    split at h
    next hstatus =>
      split at h
      next hvalid =>
        obtain rfl := Option.some.inj h
        simp [ending, hstatus, hvalid]
      next => cases h
    next => cases h
  next => cases h

theorem exists_of_ending_eq_obtained {client : Client} {reply : Reply} {catalog : Catalog}
    (h : client.ending reply = .obtained catalog) :
    ∃ payload, reply.accepted? = some payload ∧ catalog = Payload.entries payload := by
  cases reply with
  | failure fault delay =>
    exfalso
    simp only [ending, endingOfFailure] at h
    split at h
    · cases h
    · cases h
    · split at h <;> cases h
  | answer status phrase body delay =>
    simp only [ending] at h
    split at h
    · cases h
    next hstatus =>
      cases body with
      | undecodable reason => cases h
      | payload value =>
        simp only at h
        cases hvalid : Payload.validate value with
        | error fault => simp [hvalid] at h
        | ok accepted =>
          simp only [hvalid, Ending.obtained.injEq] at h
          refine ⟨value, ?_, h.symm⟩
          have hok : status = 200 := by simpa using hstatus
          simp [Reply.accepted?, hok, hvalid]

/-- How a series of attempts ends: with the one payload that was accepted, stored with the time of
the clock, or without any and with nothing stored. -/
inductive Fetched (desk : Desk) (outcome : Outcome Desk Catalog) : Prop
  | obtained (payload : Json) (accepted : desk.accepted outcome = [payload])
      (result : outcome.result = .ok (Payload.entries payload))
      (stored : outcome.state.snapshot = some ⟨Payload.entries payload, outcome.state.now⟩)
  | failed (fault : Fault) (accepted : desk.accepted outcome = [])
      (result : outcome.result = .error fault) (kept : outcome.state.snapshot = desk.snapshot)

/-- The part of a desk that attempts depend on. -/
def feedOf (desk : Desk) : Option Snapshot × List Reply := (desk.snapshot, desk.replies)

/-- A computation that neither asks for the feed nor stores anything. -/
abbrev Idle {α : Type} (act : Act Desk α) : Prop :=
  act.Keeps feedOf fun event => event.request? = none

theorem Fetched.after_idle {α : Type} {desk : Desk} {act : Act Desk α}
    {next : α → Act Desk Catalog} (hact : Idle act)
    (hnext : ∀ value desk', feedOf desk' = feedOf desk → Fetched desk' (next value desk')) :
    Fetched desk ((act >>= next) desk) := by
  have hview := (hact desk).1
  have hsnapshot : (act desk).state.snapshot = desk.snapshot := congrArg Prod.fst hview
  have hreplies : (act desk).state.replies = desk.replies := congrArg Prod.snd hview
  have hrequests := hact.requests_eq_nil (fun _ => id) desk
  rcases Act.bind_cases act next desk with ⟨fault, _, heq⟩ | ⟨value, _, heq⟩
  · rw [heq]
    exact .failed fault (Desk.accepted_eq_nil hrequests) rfl hsnapshot
  · have hcount (outcome : Outcome Desk Catalog) :
        desk.accepted ⟨outcome.result, outcome.state, (act desk).events ++ outcome.events⟩ =
          (act desk).state.accepted outcome := by
      rw [Desk.accepted, Desk.accepted, Event.requests_append, hrequests, List.nil_append,
        Desk.received_congr hreplies]
    rw [heq]
    cases hnext value (act desk).state hview with
    | obtained payload accepted result stored =>
      exact .obtained payload ((hcount _).trans accepted) result stored
    | failed fault accepted result kept =>
      exact .failed fault ((hcount _).trans accepted) result (kept.trans hsnapshot)

theorem ask_apply (client : Client) (desk : Desk) :
    client.ask desk =
      ⟨.ok desk.reply, desk.afterReply, [.requested client.address client.timeout]⟩ := rfl

theorem idle_pause (client : Client) (attempt : Nat) : Idle (client.pause attempt) := by
  unfold pause
  split
  · exact .pure ()
  · refine .bind (.ofValue _) fun _ => .bind (.ofValue _) fun _ => .bind (.ofValue _) fun _ =>
      .bind (.emit rfl) fun _ => .bind (.emit rfl) fun _ => .modify fun desk => ?_
    unfold Desk.afterWait
    split <;> rfl

theorem Fetched.after_ask {client : Client} {desk : Desk} {next : Reply → Act Desk Catalog}
    (hreply : desk.reply.accepted? = none)
    (hnext : Fetched desk.afterReply (next desk.reply desk.afterReply)) :
    Fetched desk ((client.ask >>= next) desk) := by
  have hask : (client.ask desk).result = .ok desk.reply := rfl
  have hcount (outcome : Outcome Desk Catalog) :
      desk.accepted ⟨outcome.result, outcome.state,
          (client.ask desk).events ++ outcome.events⟩ = desk.afterReply.accepted outcome := by
    have hreceived (events : List Event) :
        desk.received (Event.requests ((client.ask desk).events ++ events)).length =
          desk.reply :: desk.afterReply.received (Event.requests events).length := by
      rw [Event.requests_append, List.length_append, Nat.add_comm]
      rfl
    rw [Desk.accepted, hreceived, List.filterMap_cons_none hreply, Desk.accepted]
  rw [Act.bind_apply_of_ok hask]
  cases hnext with
  | obtained payload accepted result stored =>
    exact .obtained payload ((hcount _).trans accepted) result stored
  | failed fault accepted result kept =>
    exact .failed fault ((hcount _).trans accepted) result (kept.trans desk.afterReply_snapshot)

theorem fetchFrom_fetched (client : Client) (left attempt : Nat) (last : Option Fault)
    (desk : Desk) : Fetched desk (client.fetchFrom attempt last left desk) := by
  induction left generalizing attempt last desk with
  | zero => exact .failed _ rfl rfl rfl
  | succ left ih =>
    rw [fetchFrom]
    refine .after_idle (client.idle_pause attempt) fun _ desk _ => ?_
    cases hreply : desk.reply.accepted? with
    | some payload =>
      have hask : (client.ask desk).result = .ok desk.reply := rfl
      have haccepted (outcome : Outcome Desk Catalog)
          (h : Event.requests outcome.events = [(client.address, client.timeout)]) :
          desk.accepted outcome = [payload] := by
        rw [Desk.accepted, h, List.length_singleton, Desk.received, Desk.received]
        simp [hreply]
      rw [Act.bind_apply_of_ok hask, client.ending_of_accepted? hreply]
      exact .obtained payload (haccepted _ rfl) rfl rfl
    | none =>
      refine .after_ask hreply ?_
      cases hending : client.ending desk.reply with
      | obtained catalog =>
        obtain ⟨payload, hpayload, _⟩ := exists_of_ending_eq_obtained hending
        rw [hreply] at hpayload
        cases hpayload
      | escaped fault => exact .failed fault rfl rfl rfl
      | failed fault =>
        refine .after_idle (.ofValue _) fun _ desk₁ h₁ => ?_
        refine .after_idle (.ofValue _) fun _ desk₂ h₂ => ?_
        refine .after_idle (.emit rfl) fun _ desk₃ h₃ => ?_
        exact ih _ _ desk₃

theorem requests_fetchFrom_ne_nil (client : Client) (left : Nat) (last : Option Fault)
    (desk : Desk) : Event.requests (client.fetchFrom 0 last (left + 1) desk).events ≠ [] := by
  have hpause : (client.pause 0 desk).result = .ok () := rfl
  have hask : (client.ask desk).result = .ok desk.reply := rfl
  rw [fetchFrom, Act.bind_apply_of_ok hpause]
  show Event.requests ([] ++ ((client.ask >>= _) desk).events) ≠ []
  rw [Act.bind_apply_of_ok hask]
  simp [ask_apply, Event.requests, Event.request?]

end Client

end ReleaseLines.Feed
