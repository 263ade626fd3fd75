import ReleaseLines.Proofs.Feed.Traffic

namespace ReleaseLines

namespace Event

/-- Something of which nothing appears on standard output and that starts no command. -/
inductive IsHidden : Event → Prop
  | logged (level : Level) (message : String) : IsHidden (.logged level message)
  | requested (address : String) (timeout : Timeout) : IsHidden (.requested address timeout)
  | waited (seconds : Nat) : IsHidden (.waited seconds)
  | clientMade (settings : Option Feed.Settings) : IsHidden (.clientMade settings)

theorem displays_append_of_hidden {first : List Event} (h : ∀ event ∈ first, event.IsHidden)
    (second : List Event) : displays (first ++ second) = displays second := by
  induction first with
  | nil => rfl
  | cons event rest ih =>
    obtain ⟨hevent, hrest⟩ := List.forall_mem_cons.mp h
    have hcons : displays (event :: (rest ++ second)) = displays (rest ++ second) := by
      cases hevent <;> rfl
    rw [List.cons_append, hcons, ih hrest]

theorem displays_of_hidden {events : List Event} (h : ∀ event ∈ events, event.IsHidden) :
    displays events = [] := by
  have happend := displays_append_of_hidden h []
  rw [List.append_nil] at happend
  exact happend

end Event

namespace Act

variable {σ α : Type}

/-- A computation that goes on behind the screen. -/
abbrev Hidden (act : Act σ α) : Prop := Keeps (fun _ => ()) Event.IsHidden act

theorem Noted.hidden {act : Act σ α} (h : Noted act) : Hidden act := by
  intro state
  refine ⟨rfl, ?_⟩
  intro event he
  cases (h state).2 event he with
  | intro level message => exact .logged level message

theorem Hidden.log (level : Level) (message : String) : Hidden (Act.log level message : Act σ Unit) :=
  (Noted.log level message).hidden

end Act

open Act

namespace Feed.Client

theorem hidden_prepare (settings : Settings) : Hidden (prepare settings) :=
  .bind (.emit (.clientMade _)) fun _ => .bind (.ofValue _) fun _ =>
    .bind (.modify fun _ => rfl) fun _ => .pure _

variable (client : Client)

theorem hidden_pause (attempt : Nat) : Hidden (client.pause attempt) := by
  unfold pause
  split
  · exact .pure ()
  · refine .bind (.ofValue _) fun _ => .bind (.ofValue _) fun _ => .bind (.ofValue _) fun _ => ?_
    apply Keeps.bind (Hidden.log _ _)
    intro _
    exact .bind (.emit (.waited _)) fun _ => .modify fun _ => rfl

theorem hidden_ask : Hidden client.ask :=
  .bind (.emit (.requested _ _)) fun _ => .bind (.ask _) fun _ =>
    .bind (.modify fun _ => rfl) fun _ => .pure _

theorem hidden_fetchFrom (attempt : Nat) (last : Option Fault) (left : Nat) :
    Hidden (client.fetchFrom attempt last left) := by
  induction left generalizing attempt last with
  | zero => exact .fail _
  | succ left ih =>
    rw [fetchFrom]
    refine .bind (client.hidden_pause attempt) fun _ => .bind client.hidden_ask fun reply => ?_
    cases client.ending reply with
    | obtained catalog =>
      exact .bind (.modify fun _ => rfl) fun _ => .bind (Hidden.log _ _) fun _ => .pure _
    | escaped fault => exact .fail _
    | failed fault =>
      refine .bind (.ofValue _) fun _ => .bind (.ofValue _) fun _ => ?_
      apply Keeps.bind (Hidden.log _ _)
      intro _
      exact ih _ _

theorem hidden_supported (minimum : String) : Hidden (client.supported minimum) := by
  have hfetch : Hidden client.fetch := by
    refine .bind (.ask _) fun served => ?_
    cases served with
    | some catalog => exact .bind (Hidden.log _ _) fun _ => .pure _
    | none => exact client.hidden_fetchFrom _ _ _
  exact .bind hfetch fun catalog => (noted_liveCycles catalog minimum catalog).hidden

end Feed.Client

variable {σ : Type}

theorem Provider.hidden_candidates {provider : Provider σ} (hsupported : Hidden provider.supported)
    (hfallback : Noted provider.fallback) (offline : Bool) :
    Hidden (provider.candidates offline) := by
  cases offline with
  | true => exact (noted_candidates_offline hfallback).hidden
  | false =>
    obtain ⟨next, hcandidates, hnext⟩ := exists_candidates_eq_either hfallback
    rw [hcandidates]
    exact .either hsupported fun result => (hnext result).hidden

theorem SupportMatrix.hidden_build (expression : String) (client : Feed.Client) (offline : Bool) :
    Hidden (build expression (some client.provider) offline) := by
  have hcandidates : Hidden (client.provider.candidates offline) :=
    Provider.hidden_candidates (client.hidden_supported _) (.pure _) offline
  refine .bind (.ofExcept _) fun _ => .bind hcandidates fun chosen => ?_
  exact (noted_publish expression chosen).hidden

end ReleaseLines
