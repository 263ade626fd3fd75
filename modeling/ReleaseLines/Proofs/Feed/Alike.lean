import ReleaseLines.Proofs.Feed.Retries
import ReleaseLines.Proofs.Feed.Supported

namespace ReleaseLines

open Act

variable {α β : Type}

/-- Faults that are dealt with alike: the same one, or two of this library's own. -/
def Fault.Alike (first second : Fault) : Prop :=
  first = second ∨ first.isA .general = true ∧ second.isA .general = true

/-- The same value, or faults that are dealt with alike. -/
inductive ResultAlike : Except Fault α → Except Fault α → Prop
  | ok (value : α) : ResultAlike (.ok value) (.ok value)
  | error {first second : Fault} (h : first.Alike second) :
      ResultAlike (.error first) (.error second)

namespace Feed

/-- What surrounds a client: the clock, whether waiting moves it, and the replies to come. -/
def Desk.surroundings (desk : Desk) : Instant × Bool × List Reply :=
  (desk.now, desk.waitingMoves, desk.replies)

theorem Desk.eq_of_surroundings {desk other : Desk} (h : desk.surroundings = other.surroundings) :
    desk.now = other.now ∧ desk.waitingMoves = other.waitingMoves ∧
      desk.replies = other.replies := by
  obtain ⟨hnow, hrest⟩ := Prod.mk.inj h
  obtain ⟨hmoves, hreplies⟩ := Prod.mk.inj hrest
  exact ⟨hnow, hmoves, hreplies⟩

theorem Desk.surroundings_afterReply {desk other : Desk}
    (h : desk.surroundings = other.surroundings) :
    desk.afterReply.surroundings = other.afterReply.surroundings := by
  obtain ⟨hnow, hmoves, hreplies⟩ := eq_of_surroundings h
  rw [surroundings, surroundings, afterReply_congr hreplies]
  rw [afterReply, afterReply, reply, reply, hnow, hmoves, hreplies]

theorem Desk.surroundings_afterWait {desk other : Desk}
    (h : desk.surroundings = other.surroundings) (seconds : Nat) :
    (desk.afterWait seconds).surroundings = (other.afterWait seconds).surroundings := by
  obtain ⟨hnow, hmoves, hreplies⟩ := eq_of_surroundings h
  rw [afterWait, afterWait, hmoves]
  split
  · rw [surroundings, surroundings, hnow, hreplies]
  · exact h

/-- Alike results, and the same surroundings left. -/
def OutcomeAlike (first second : Outcome Desk α) : Prop :=
  ResultAlike first.result second.result ∧ first.state.surroundings = second.state.surroundings

/-- Computations that come to alike outcomes in the same surroundings. -/
def Alike (first second : Act Desk α) : Prop :=
  ∀ desk other : Desk, desk.surroundings = other.surroundings →
    OutcomeAlike (first desk) (second other)

theorem OutcomeAlike.bind {first second : Act Desk α} {next after : α → Act Desk β}
    {desk other : Desk} (h : OutcomeAlike (first desk) (second other))
    (hnext : ∀ value, Alike (next value) (after value)) :
    OutcomeAlike ((first >>= next) desk) ((second >>= after) other) := by
  obtain ⟨hresult, hstate⟩ := h
  generalize hfirst : (first desk).result = ended at hresult
  generalize hsecond : (second other).result = stopped at hresult
  cases hresult with
  | ok value =>
    rw [bind_apply_of_ok hfirst, bind_apply_of_ok hsecond]
    exact hnext value _ _ hstate
  | error hfaults =>
    rw [bind_apply_of_error hfirst, bind_apply_of_error hsecond]
    exact ⟨.error hfaults, hstate⟩

namespace Alike

theorem pure (value : α) : Alike (Pure.pure value : Act Desk α) (Pure.pure value) :=
  fun _ _ h => ⟨.ok value, h⟩

theorem fail {first second : Fault} (h : first.Alike second) :
    Alike (Act.fail first : Act Desk α) (Act.fail second) :=
  fun _ _ hsame => ⟨.error h, hsame⟩

theorem emit (first second : Event) : Alike (Act.emit first) (Act.emit second) :=
  fun _ _ h => ⟨.ok (), h⟩

theorem modify {f : Desk → Desk}
    (h : ∀ desk other : Desk, desk.surroundings = other.surroundings →
      (f desk).surroundings = (f other).surroundings) : Alike (Act.modify f) (Act.modify f) :=
  fun desk other hsame => ⟨.ok (), h desk other hsame⟩

theorem ofValue (result : Except BadValue α) :
    Alike (Act.ofValue result) (Act.ofValue result) := by
  cases result with
  | ok value => exact pure value
  | error problem => exact fail (.inl rfl)

theorem bind {first second : Act Desk α} {next after : α → Act Desk β} (h : Alike first second)
    (hnext : ∀ value, Alike (next value) (after value)) :
    Alike (first >>= next) (second >>= after) :=
  fun desk other hsame => (h desk other hsame).bind hnext

end Alike

namespace Client

variable {first second : Client}

/-- Clients understand a reply alike, but may tell of a failure in other words. -/
theorem ending_alike (first second : Client) (reply : Reply) :
    (∃ catalog, first.ending reply = .obtained catalog ∧
      second.ending reply = .obtained catalog) ∨
    (∃ fault, first.ending reply = .escaped fault ∧ second.ending reply = .escaped fault) ∨
    ∃ fault other, first.ending reply = .failed fault ∧ second.ending reply = .failed other := by
  by_cases hfails : reply.Fails
  · obtain ⟨fault, hfirst, _⟩ := first.exists_ending_of_fails hfails
    obtain ⟨other, hsecond, _⟩ := second.exists_ending_of_fails hfails
    exact .inr (.inr ⟨fault, other, hfirst, hsecond⟩)
  · rcases first.ending_of_not_fails hfails with
      ⟨payload, hpayload, hfirst⟩ | ⟨fault, delay, rfl, hfirst⟩
    · exact .inl ⟨_, hfirst, second.ending_of_accepted? hpayload⟩
    · rcases second.ending_of_not_fails hfails with
        ⟨_, hpayload, _⟩ | ⟨other, late, hother, hsecond⟩
      · cases hpayload
      · obtain ⟨rfl, _⟩ := Reply.failure.inj hother
        exact .inr (.inl ⟨fault, hfirst, hsecond⟩)

theorem alike_pause (h : first.retries = second.retries) (attempt : Nat) :
    Alike (first.pause attempt) (second.pause attempt) := by
  have hattempts : first.attempts = second.attempts := congrArg (· + 1) h
  unfold pause
  rw [hattempts]
  split
  · exact .pure ()
  · refine .bind (.ofValue _) fun _ => .bind (.ofValue _) fun _ => .bind (.ofValue _) fun _ => ?_
    apply Alike.bind (.emit _ _)
    intro _
    apply Alike.bind (.emit _ _)
    intro _
    exact .modify fun _ _ hsame => Desk.surroundings_afterWait hsame _

theorem alike_ask (first second : Client) : Alike first.ask second.ask := by
  intro desk other hsame
  obtain ⟨_, _, hreplies⟩ := Desk.eq_of_surroundings hsame
  have hreply : desk.reply = other.reply := by rw [Desk.reply, Desk.reply, hreplies]
  rw [ask_apply, ask_apply, hreply]
  exact ⟨.ok _, Desk.surroundings_afterReply hsame⟩

theorem isA_general_exhausted (client : Client) (last : Option Fault) :
    (client.exhausted last).isA .general = true := by
  cases last with
  | none => rfl
  | some fault => rfl

/-- Attempts in the same surroundings get to the same end, whatever address they ask and for however
long each of them. -/
theorem alike_fetchFrom (h : first.retries = second.retries) (attempt left : Nat)
    (last before : Option Fault) :
    Alike (first.fetchFrom attempt last left) (second.fetchFrom attempt before left) := by
  induction left generalizing attempt last before with
  | zero => exact .fail (.inr ⟨first.isA_general_exhausted _, second.isA_general_exhausted _⟩)
  | succ left ih =>
    have hattempts : first.attempts = second.attempts := congrArg (· + 1) h
    rw [fetchFrom, fetchFrom, hattempts]
    refine .bind (alike_pause h attempt) fun _ => .bind (alike_ask first second) fun reply => ?_
    rcases first.ending_alike second reply with
      ⟨catalog, hfirst, hsecond⟩ | ⟨fault, hfirst, hsecond⟩ | ⟨fault, other, hfirst, hsecond⟩
    · rw [hfirst, hsecond]
      have hstore (desk other : Desk) (hsame : desk.surroundings = other.surroundings) :
          (desk.store catalog).surroundings = (other.store catalog).surroundings := hsame
      exact .bind (.modify hstore) fun _ => .bind (.emit _ _) fun _ => .pure _
    · rw [hfirst, hsecond]
      exact .fail (.inl rfl)
    · rw [hfirst, hsecond]
      refine .bind (.ofValue _) fun _ => .bind (.ofValue _) fun _ => ?_
      apply Alike.bind (.emit _ _)
      intro _
      exact ih _ _ _

theorem fetch_alike (h : first.retries = second.retries) {desk other : Desk}
    (hsame : desk.surroundings = other.surroundings) (hfirst : ¬first.IsFresh desk)
    (hsecond : ¬second.IsFresh other) : OutcomeAlike (first.fetch desk) (second.fetch other) := by
  have hattempts : first.attempts = second.attempts := congrArg (· + 1) h
  rw [fetch_of_not_fresh hfirst, fetch_of_not_fresh hsecond, hattempts]
  exact alike_fetchFrom h 0 _ none none desk other hsame

theorem supported_alike (h : first.retries = second.retries) {desk other : Desk}
    (hsame : desk.surroundings = other.surroundings) (hfirst : ¬first.IsFresh desk)
    (hsecond : ¬second.IsFresh other) (minimum : String) :
    OutcomeAlike (first.supported minimum desk) (second.supported minimum other) := by
  apply (fetch_alike h hsame hfirst hsecond).bind
  intro catalog desk other hsame
  have hstate (desk : Desk) := (noted_liveCycles catalog minimum catalog).isLocal.state_eq desk
  have htoday : desk.today = other.today := by
    rw [Desk.today, Desk.today, (Desk.eq_of_surroundings hsame).1]
  refine ⟨?_, ?_⟩
  · rw [liveCycles_result, liveCycles_result, htoday]
    exact .ok _
  · rw [hstate, hstate, hsame]

end Client

end Feed

end ReleaseLines
