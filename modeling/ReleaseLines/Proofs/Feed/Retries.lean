import ReleaseLines.Proofs.Feed.Cache
import ReleaseLines.Proofs.Numeral.DigitRun

namespace ReleaseLines

namespace Event

def waits (events : List Event) : List Nat := events.filterMap wait?

/-- The requests and the waits among some events, in order. -/
def outward (events : List Event) : List Event :=
  events.filter fun event => event.request?.isSome || event.wait?.isSome

theorem outward_append (first second : List Event) :
    outward (first ++ second) = outward first ++ outward second :=
  List.filter_append ..

theorem requests_outward (events : List Event) : requests (outward events) = requests events := by
  rw [requests, requests, outward, List.filterMap_filter]
  refine List.filterMap_congr fun event _ => ?_
  cases event <;> rfl

theorem waits_outward (events : List Event) : waits (outward events) = waits events := by
  rw [waits, waits, outward, List.filterMap_filter]
  refine List.filterMap_congr fun event _ => ?_
  cases event <;> rfl

end Event

namespace Feed

open Act

/-- A reply that another attempt may follow: a request that failed, a failure to get a catalog, an
answer without success, one that cannot be decoded, or a payload that breaks the rules. -/
inductive Reply.Fails : Reply → Prop
  | requestTimeout {name message : String} {delay : Nat} :
      Fails (.failure (.foreign ⟨.requestTimeout, name, message⟩) delay)
  | request {name message : String} {delay : Nat} :
      Fails (.failure (.foreign ⟨.request, name, message⟩) delay)
  | catalog {fault : Fault} {delay : Nat} (h : fault.isA .catalog = true) :
      Fails (.failure fault delay)
  | status {status : Int} {phrase : Option String} {body : Body} {delay : Nat} (h : status ≠ 200) :
      Fails (.answer status phrase body delay)
  | undecodable {status : Int} {phrase : Option String} {reason : String} {delay : Nat} :
      Fails (.answer status phrase (.undecodable reason) delay)
  | payload {status : Int} {phrase : Option String} {value : Json} {delay : Nat} {fault : Fault}
      (h : Payload.validate value = .error fault) :
      Fails (.answer status phrase (.payload value) delay)

namespace Desk

/-- The reply to the request of a number, counted from 0; the last reply is given for ever. -/
def replyAt (desk : Desk) (number : Nat) : Reply :=
  desk.replies.getD (min number (desk.replies.length - 1)) silence

theorem replyAt_zero (desk : Desk) : desk.replyAt 0 = desk.reply := by
  rw [replyAt, reply, Nat.zero_min, List.headD_eq_head?_getD, List.getD_eq_getElem?_getD,
    List.head?_eq_getElem?]

theorem replyAt_succ (desk : Desk) (number : Nat) :
    desk.replyAt (number + 1) = desk.afterReply.replyAt number := by
  obtain ⟨snapshot, now, moves, replies⟩ := desk
  match replies with
  | [] => rfl
  | [only] => simp [replyAt, afterReply, laterReplies]
  | first :: second :: rest =>
    simp only [replyAt, afterReply, laterReplies, List.length_cons, Nat.add_sub_cancel]
    rw [Nat.succ_min_succ, List.getD_cons_succ]

theorem replyAt_congr {desk other : Desk} (h : desk.replies = other.replies) (number : Nat) :
    desk.replyAt number = other.replyAt number := by
  rw [replyAt, replyAt, h]

end Desk

namespace Payload

theorem isA_catalog_of_validate {payload : Json} {fault : Fault}
    (h : validate payload = .error fault) : fault.isA .catalog = true := by
  unfold validate at h
  split at h
  · cases h
    rfl
  · split at h
    · cases h
    · cases h
      rfl

end Payload

namespace Client

theorem exists_ending_of_status (client : Client) {status : Int} (phrase : Option String)
    (body : Body) (delay : Nat) (h : status ≠ 200) :
    ∃ fault, client.ending (.answer status phrase body delay) = .failed fault ∧
      fault.isA .catalog = true :=
  ⟨_, if_pos (bne_iff_ne.mpr h), rfl⟩

theorem exists_ending_of_fails (client : Client) {reply : Reply} (h : reply.Fails) :
    ∃ fault, client.ending reply = .failed fault ∧ fault.isA .catalog = true := by
  cases h with
  | requestTimeout | request => exact ⟨_, rfl, rfl⟩
  | @catalog fault delay h =>
    refine ⟨fault, ?_, h⟩
    simp only [ending]
    unfold endingOfFailure
    split
    · exact absurd h Bool.false_ne_true
    · exact absurd h Bool.false_ne_true
    · rw [if_pos h]
  | status h => exact client.exists_ending_of_status _ _ _ h
  | @undecodable status =>
    by_cases hstatus : status = 200
    · subst hstatus
      exact ⟨_, rfl, rfl⟩
    · exact client.exists_ending_of_status _ _ _ hstatus
  | @payload status phrase value delay fault h =>
    by_cases hstatus : status = 200
    · subst hstatus
      refine ⟨fault, ?_, Payload.isA_catalog_of_validate h⟩
      simp [ending, h]
    · exact client.exists_ending_of_status _ _ _ hstatus

/-- An attempt that does not fail has a catalog or ends the fetch with a fault from outside. -/
theorem ending_of_not_fails (client : Client) {reply : Reply} (h : ¬reply.Fails) :
    (∃ payload, reply.accepted? = some payload ∧
      client.ending reply = .obtained (Payload.entries payload)) ∨
    ∃ fault delay, reply = .failure fault delay ∧ client.ending reply = .escaped fault := by
  cases reply with
  | failure fault delay =>
    refine .inr ⟨fault, delay, rfl, ?_⟩
    simp only [ending]
    unfold endingOfFailure
    split
    · exact absurd .requestTimeout h
    · exact absurd .request h
    · rw [if_neg fun hcatalog => h (.catalog hcatalog)]
  | answer status phrase body delay =>
    have hstatus : status = 200 := by
      by_contra hne
      exact h (.status hne)
    cases body with
    | undecodable reason => exact absurd .undecodable h
    | payload value =>
      cases hvalid : Payload.validate value with
      | error fault => exact absurd (.payload hvalid) h
      | ok accepted =>
        have haccepted :
            (Reply.answer status phrase (.payload value) delay).accepted? = some value := by
          simp [Reply.accepted?, hstatus, hvalid]
        exact .inl ⟨value, haccepted, client.ending_of_accepted? haccepted⟩

/-- What an attempt shows to the outside: a request, and before every attempt but the first a wait,
of one second at first and of twice as long each time. -/
def attemptEvents (client : Client) : (attempt : Nat) → List Event
  | 0 => [.requested client.address client.timeout]
  | attempt + 1 => [.waited (2 ^ attempt), .requested client.address client.timeout]

/-- Some events show an attempt after so many pauses. -/
structure Tries (client : Client) (pauses : Nat) (events : List Event) : Prop where
  requests : Event.requests events = List.replicate (pauses + 1) (client.address, client.timeout)
  waits : Event.waits events = (List.range pauses).map (2 ^ ·)
  outward : Event.outward events = (List.range (pauses + 1)).flatMap client.attemptEvents

theorem tries_of_outward {client : Client} {pauses : Nat} {events : List Event}
    (h : Event.outward events = (List.range (pauses + 1)).flatMap client.attemptEvents) :
    client.Tries pauses events := by
  have hrequests (count : Nat) : Event.requests ((List.range count).flatMap client.attemptEvents) =
      List.replicate count (client.address, client.timeout) := by
    induction count with
    | zero => rfl
    | succ count ih =>
      rw [List.range_succ, List.flatMap_append, Event.requests_append, ih, List.replicate_succ']
      cases count <;> rfl
  have hwaits (count : Nat) : Event.waits ((List.range (count + 1)).flatMap client.attemptEvents) =
      (List.range count).map (2 ^ ·) := by
    induction count with
    | zero => rfl
    | succ count ih =>
      rw [List.range_succ, List.flatMap_append, Event.waits, List.filterMap_append, ← Event.waits,
        ih, List.range_succ, List.map_append]
      rfl
  refine ⟨?_, ?_, h⟩
  · rw [← Event.requests_outward, h, hrequests]
  · rw [← Event.waits_outward, h, hwaits]

/-- Every number that is shown between attempts is short enough to be written. -/
def Countable (client : Client) : Prop :=
  ∀ attempt ≤ client.retries, pauseBefore attempt < Numeral.powerOfTen Numeral.digitLimit ∧
    attempt + 1 < Numeral.powerOfTen Numeral.digitLimit

theorem countable_of_short {client : Client}
    (h : client.retries = 0 ∨
      (Numeral.digits (2 ^ (client.retries - 1))).length ≤ Numeral.digitLimit) :
    client.Countable := by
  have hten : 10 ≤ Numeral.powerOfTen Numeral.digitLimit :=
    Numeral.powerOfTen_le_powerOfTen (show 1 ≤ Numeral.digitLimit by decide)
  have hlongest : 2 ^ (client.retries - 1) < Numeral.powerOfTen Numeral.digitLimit := by
    rcases h with h | h
    · rw [h]
      omega
    · exact DigitRun.length_ofNat_le_iff.mp h
  intro attempt ha
  have hpause : 2 ^ (attempt - 1) ≤ 2 ^ (client.retries - 1) :=
    Nat.pow_le_pow_right (by decide) (by omega)
  refine ⟨hpause.trans_lt hlongest, ?_⟩
  match attempt with
  | 0 | 1 | 2 => omega
  | attempt + 3 =>
    -- From the third retry on the wait is longer than the number of the attempt.
    have hdouble : 2 ^ (attempt + 3 - 1) = 2 * 2 ^ (attempt + 1) := Nat.pow_succ'
    have hgrows : attempt + 1 < 2 ^ (attempt + 1) := Nat.lt_two_pow_self
    omega

theorem Countable.write_succ {client : Client} (h : client.Countable) {attempt : Nat}
    (ha : attempt ≤ client.retries) :
    Numeral.write ((attempt : Int) + 1) = .ok (Numeral.natText (attempt + 1)) :=
  Numeral.write_of_lt (h attempt ha).2

theorem pause_succ {client : Client} (h : client.Countable) {attempt : Nat}
    (ha : attempt + 1 ≤ client.retries) (desk : Desk) :
    ∃ message, client.pause (attempt + 1) desk =
      ⟨.ok (), desk.afterWait (2 ^ attempt), [.logged .debug message, .waited (2 ^ attempt)]⟩ := by
  have hpause := Numeral.write_of_lt (h (attempt + 1) ha).1
  have hthis := h.write_succ ha
  have hall : Numeral.write client.attempts = _ := h.write_succ (Nat.le_refl client.retries)
  rw [pause, if_neg (by simp)]
  simp only [hpause, hthis, hall]
  exact ⟨_, rfl⟩

/-- A pause and the request after it show one attempt, and take one reply. -/
theorem pause_ask {client : Client} (h : client.Countable) {attempt : Nat}
    (ha : attempt ≤ client.retries) (next : Reply → Act Desk Catalog) (desk : Desk) :
    ∃ (shown : List Event) (later : Desk), Event.outward shown = client.attemptEvents attempt ∧
      later.replies = desk.afterReply.replies ∧
      (client.pause attempt >>= fun _ => client.ask >>= next) desk =
        (next desk.reply later).after shown := by
  cases attempt with
  | zero => exact ⟨[.requested client.address client.timeout], desk.afterReply, rfl, rfl, rfl⟩
  | succ attempt =>
    obtain ⟨message, hpause⟩ := client.pause_succ h ha desk
    have hreplies := desk.afterWait_replies (2 ^ attempt)
    have hreply : (desk.afterWait (2 ^ attempt)).reply = desk.reply := by
      rw [Desk.reply, Desk.reply, hreplies]
    have hask := client.ask_apply (desk.afterWait (2 ^ attempt))
    refine ⟨[.logged .debug message, .waited (2 ^ attempt),
        .requested client.address client.timeout],
      (desk.afterWait (2 ^ attempt)).afterReply, rfl, Desk.afterReply_congr hreplies, ?_⟩
    rw [Act.bind_apply_of_ok (by rw [hpause]), hpause, Act.bind_apply_of_ok (by rw [hask]), hask,
      hreply]
    rfl

theorem fetchFrom_of_failed {client : Client} (h : client.Countable) {attempt : Nat}
    (ha : attempt ≤ client.retries) (last : Option Fault) (left : Nat) {desk : Desk} {fault : Fault}
    (hending : client.ending desk.reply = .failed fault) :
    ∃ (shown : List Event) (later : Desk), Event.outward shown = client.attemptEvents attempt ∧
      later.replies = desk.afterReply.replies ∧
      client.fetchFrom attempt last (left + 1) desk =
        (client.fetchFrom (attempt + 1) (some fault) left later).after shown := by
  have hthis := h.write_succ ha
  have hall : Numeral.write client.attempts = _ := h.write_succ (Nat.le_refl client.retries)
  obtain ⟨shown, later, hshown, hreplies, heq⟩ : ∃ shown later, _ ∧ _ ∧
      client.fetchFrom attempt last (left + 1) desk = _ := client.pause_ask h ha _ desk
  simp only [hending, hthis, hall] at heq
  obtain ⟨message, hmessage⟩ : ∃ message, client.fetchFrom attempt last (left + 1) desk =
      ((client.fetchFrom (attempt + 1) (some fault) left later).after
        [.logged .warning message]).after shown := ⟨_, heq⟩
  refine ⟨shown ++ [.logged .warning message], later, ?_, hreplies, ?_⟩
  · rw [Event.outward_append, hshown]
    exact List.append_nil _
  · rw [hmessage, Outcome.after_after]

/-- An attempt that does not fail ends the series. -/
theorem fetchFrom_of_not_fails {client : Client} (h : client.Countable) {attempt : Nat}
    (ha : attempt ≤ client.retries) (last : Option Fault) (left : Nat) {desk : Desk}
    (hreply : ¬desk.reply.Fails) :
    Event.outward (client.fetchFrom attempt last (left + 1) desk).events =
        client.attemptEvents attempt ∧
      ((∃ payload, desk.reply.accepted? = some payload ∧
          (client.fetchFrom attempt last (left + 1) desk).result = .ok (Payload.entries payload)) ∨
        ∃ fault delay, desk.reply = .failure fault delay ∧
          (client.fetchFrom attempt last (left + 1) desk).result = .error fault) := by
  obtain ⟨shown, later, hshown, hreplies, heq⟩ : ∃ shown later, _ ∧ _ ∧
      client.fetchFrom attempt last (left + 1) desk = _ := client.pause_ask h ha _ desk
  have houtward (outcome : Outcome Desk Catalog) (hquiet : Event.outward outcome.events = []) :
      Event.outward (outcome.after shown).events = client.attemptEvents attempt := by
    rw [Outcome.after, Event.outward_append, hshown, hquiet, List.append_nil]
  rcases client.ending_of_not_fails hreply with
    ⟨payload, haccepted, hending⟩ | ⟨fault, delay, hfault, hending⟩
  · simp only [hending] at heq
    rw [heq]
    exact ⟨houtward _ rfl, .inl ⟨payload, haccepted, rfl⟩⟩
  · simp only [hending] at heq
    rw [heq]
    exact ⟨houtward _ rfl, .inr ⟨fault, delay, hfault, rfl⟩⟩

/-- How the last attempt before one of a number failed, if there was one. -/
def faultBefore (client : Client) (desk : Desk) : (attempt : Nat) → Option Fault
  | 0 => none
  | attempt + 1 =>
    match client.ending (desk.replyAt attempt) with
    | .failed fault => some fault
    | _ => none

/-- A fetch gets as far as an attempt: what is left of it is the series from there on, on a desk
that gives the replies to come. -/
structure ComesTo (client : Client) (desk : Desk) (attempt : Nat) (later : Desk) : Prop where
  replyAt : ∀ number, later.replyAt number = desk.replyAt (attempt + number)
  continues : ∃ shown, Event.outward shown = (List.range attempt).flatMap client.attemptEvents ∧
    client.fetchFrom 0 none client.attempts desk =
      (client.fetchFrom attempt (client.faultBefore desk attempt) (client.attempts - attempt)
        later).after shown

theorem ComesTo.reply_eq {client : Client} {desk later : Desk} {attempt : Nat}
    (h : client.ComesTo desk attempt later) : later.reply = desk.replyAt attempt := by
  rw [← Desk.replyAt_zero, h.replyAt, Nat.add_zero]

theorem ComesTo.next {client : Client} (hc : client.Countable) {desk later : Desk} {attempt : Nat}
    (h : client.ComesTo desk attempt later) (ha : attempt ≤ client.retries)
    (hfails : (desk.replyAt attempt).Fails) : ∃ next, client.ComesTo desk (attempt + 1) next := by
  obtain ⟨shown, hshown, hseries⟩ := h.continues
  obtain ⟨fault, hending, _⟩ := client.exists_ending_of_fails hfails
  have hleft : client.attempts - attempt = client.attempts - (attempt + 1) + 1 := by
    rw [attempts]
    omega
  obtain ⟨front, next, hfront, hreplies, hstep⟩ := client.fetchFrom_of_failed hc ha
    (client.faultBefore desk attempt) (client.attempts - (attempt + 1)) (h.reply_eq ▸ hending)
  refine ⟨next, fun number => ?_, shown ++ front, ?_, ?_⟩
  · rw [Desk.replyAt_congr hreplies, ← Desk.replyAt_succ, h.replyAt]
    exact congrArg desk.replyAt (by omega)
  · rw [Event.outward_append, hshown, hfront, List.range_succ, List.flatMap_append,
      List.flatMap_singleton]
  · rw [hseries, hleft, hstep, Outcome.after_after, faultBefore, hending]

/-- As long as all attempts fail, a fetch gets to the next one. -/
theorem exists_comesTo {client : Client} (hc : client.Countable) (desk : Desk) {attempt : Nat}
    (ha : attempt ≤ client.attempts) (hfails : ∀ before < attempt, (desk.replyAt before).Fails) :
    ∃ later, client.ComesTo desk attempt later := by
  induction attempt with
  | zero => exact ⟨desk, fun number => by rw [Nat.zero_add], [], rfl, rfl⟩
  | succ attempt ih =>
    obtain ⟨later, hlater⟩ := ih (by omega) fun before hb => hfails before (by omega)
    exact hlater.next hc (by rw [attempts] at ha; omega) (hfails attempt (by omega))

/-- A fetch that has nothing fresh to serve asks again, after a wait that doubles each time, until
an attempt does not fail or there are no more retries. Its result is that of the last attempt. -/
theorem fetch_retries {client : Client} {desk : Desk} (stale : ¬client.IsFresh desk)
    (short : client.retries = 0 ∨
      (Numeral.digits (2 ^ (client.retries - 1))).length ≤ Numeral.digitLimit) :
    (∀ attempt ≤ client.retries, (∀ before < attempt, (desk.replyAt before).Fails) →
      ¬(desk.replyAt attempt).Fails →
      client.Tries attempt (client.fetch desk).events ∧
        ((∃ payload, (desk.replyAt attempt).accepted? = some payload ∧
            (client.fetch desk).result = .ok (Payload.entries payload)) ∨
          ∃ fault delay, desk.replyAt attempt = .failure fault delay ∧
            (client.fetch desk).result = .error fault)) ∧
    ((∀ attempt ≤ client.retries, (desk.replyAt attempt).Fails) →
      client.Tries client.retries (client.fetch desk).events ∧
        ∃ last, client.ending (desk.replyAt client.retries) = .failed last ∧
          last.isA .catalog = true ∧
          (client.fetch desk).result =
            .error (.fetchExhausted ((client.retries : Int) + 1) last true)) := by
  have hc := countable_of_short short
  rw [fetch_of_not_fresh stale]
  refine ⟨fun attempt ha hfails hends => ?_, fun hfails => ?_⟩
  · -- The series reaches this attempt, which ends it.
    obtain ⟨later, hlater⟩ := exists_comesTo hc desk (by rw [attempts]; omega) hfails
    obtain ⟨shown, hshown, hseries⟩ := hlater.continues
    have hleft : client.attempts - attempt = client.retries - attempt + 1 := by
      rw [attempts]
      omega
    obtain ⟨hlast, hresult⟩ := fetchFrom_of_not_fails hc ha (client.faultBefore desk attempt)
      (client.retries - attempt) (hlater.reply_eq ▸ hends)
    rw [hseries, hleft]
    rw [hlater.reply_eq] at hresult
    refine ⟨tries_of_outward ?_, hresult⟩
    rw [Outcome.after, Event.outward_append, hshown, hlast, List.range_succ, List.flatMap_append,
      List.flatMap_singleton]
  · -- The series runs out, and all it knows by then is how its last attempt failed.
    obtain ⟨later, hlater⟩ := exists_comesTo hc desk (Nat.le_refl client.attempts)
      fun before hb => hfails before (Nat.lt_succ_iff.mp hb)
    obtain ⟨shown, hshown, hseries⟩ := hlater.continues
    obtain ⟨last, hlast, hkind⟩ := client.exists_ending_of_fails (hfails _ (Nat.le_refl _))
    have hfault : client.faultBefore desk client.attempts = some last := by
      rw [attempts, faultBefore, hlast]
    rw [hseries, Nat.sub_self, hfault]
    refine ⟨tries_of_outward ?_, last, hlast, hkind, rfl⟩
    rw [Outcome.after, Event.outward_append, hshown]
    exact List.append_nil _

theorem fetch_of_third_attempt :
    (Client.standard.Tries 2 (Client.standard.fetch ⟨none, .epoch, true,
        [.answer 503 none (.undecodable "no body"),
          .failure (.foreign ⟨.requestTimeout, "Timeout", "too slow"⟩),
          .answer 200 none (.payload (.arr [.obj [("cycle", .str "3.12")]]))]⟩).events ∧
      (Client.standard.fetch ⟨none, .epoch, true,
        [.answer 503 none (.undecodable "no body"),
          .failure (.foreign ⟨.requestTimeout, "Timeout", "too slow"⟩),
          .answer 200 none (.payload (.arr [.obj [("cycle", .str "3.12")]]))]⟩).result =
        .ok [⟨"3.12", .null, .unknown, .null, .null, false, .unknown⟩]) ∧
    (Client.standard.fetch ⟨none, .epoch, true,
        [.answer 404 (some "Not Found") (.payload .null),
          .answer 200 none (.payload (.arr []))]⟩).result =
      .error (.fetchExhausted 3 (.catalog "received empty data array") true) := by
  let found : Desk := ⟨none, .epoch, true, [.answer 503 none (.undecodable "no body"),
    .failure (.foreign ⟨.requestTimeout, "Timeout", "too slow"⟩),
    .answer 200 none (.payload (.arr [.obj [("cycle", .str "3.12")]]))]⟩
  let lost : Desk := ⟨none, .epoch, true,
    [.answer 404 (some "Not Found") (.payload .null), .answer 200 none (.payload (.arr []))]⟩
  have short : (Numeral.digits (2 ^ (Client.standard.retries - 1))).length ≤
      Numeral.digitLimit := by decide +kernel
  have hempty : found.snapshot = none := rfl
  have hlostEmpty : lost.snapshot = none := rfl
  have hfound := (fetch_retries (not_isFresh_of_empty hempty) (.inr short)).1 2 (by decide)
    (fun before hb => by
      match before with
      | 0 => exact .status (by decide)
      | 1 => exact .requestTimeout)
    (by
      rintro (_ | _ | _ | h | _ | h)
      · exact h rfl
      · cases h)
  have hlost := (fetch_retries (not_isFresh_of_empty hlostEmpty) (.inr short)).2
    fun attempt ha => by
      match attempt, ha with
      | 0, _ => exact .status (by decide)
      | 1, _ | 2, _ => exact .payload rfl
  obtain ⟨htries, ⟨payload, hpayload, hresult⟩ | ⟨fault, _, hfault, _⟩⟩ := hfound
  · obtain rfl := Option.some.inj hpayload
    obtain ⟨_, last, hlast, _, hexhausted⟩ := hlost
    cases hlast
    exact ⟨⟨htries, hresult⟩, hexhausted⟩
  · cases hfault

end Client

end Feed

end ReleaseLines
