import ReleaseLines.Act.Basic

namespace ReleaseLines

namespace Event

def requests (events : List Event) : List (String × Timeout) := events.filterMap request?

@[simp] theorem requests_append (first second : List Event) :
    requests (first ++ second) = requests first ++ requests second :=
  List.filterMap_append

theorem requests_eq_nil {events : List Event} (h : ∀ event ∈ events, event.request? = none) :
    requests events = [] :=
  List.filterMap_eq_nil_iff.mpr h

/-- Neither a request nor a wait. -/
def IsLocal (event : Event) : Prop := event.request? = none ∧ event.wait? = none

/-- A message for the log. -/
inductive IsLogged : Event → Prop
  | intro (level : Level) (message : String) : IsLogged (.logged level message)

theorem IsLogged.isLocal {event : Event} (h : event.IsLogged) : event.IsLocal := by
  cases h
  exact ⟨rfl, rfl⟩

end Event

/-- An outcome that something was seen before. -/
def Outcome.after {σ α : Type} (outcome : Outcome σ α) (shown : List Event) : Outcome σ α :=
  { outcome with events := shown ++ outcome.events }

theorem Outcome.after_after {σ α : Type} (outcome : Outcome σ α) (first second : List Event) :
    (outcome.after second).after first = outcome.after (first ++ second) := by
  rw [after, after, after, List.append_assoc]

namespace Act

variable {σ α β γ : Type}

theorem bind_cases (act : Act σ α) (next : α → Act σ β) (state : σ) :
    (∃ fault, (act state).result = .error fault ∧
      (act >>= next) state = ⟨.error fault, (act state).state, (act state).events⟩) ∨
    (∃ value, (act state).result = .ok value ∧
      (act >>= next) state =
        ⟨(next value (act state).state).result, (next value (act state).state).state,
          (act state).events ++ (next value (act state).state).events⟩) := by
  cases h : (act state).result with
  | error fault => exact .inl ⟨fault, rfl, bind_apply_of_error h⟩
  | ok value => exact .inr ⟨value, rfl, bind_apply_of_ok h⟩

theorem result_bind {act : Act σ α} {next : α → Act σ β} {state : σ} {value : α}
    (h : (act state).result = .ok value) :
    ((act >>= next) state).result = (next value (act state).state).result := by
  rw [bind_apply_of_ok h]

theorem result_bind_of_error {act : Act σ α} {next : α → Act σ β} {state : σ} {fault : Fault}
    (h : (act state).result = .error fault) : ((act >>= next) state).result = .error fault := by
  rw [bind_apply_of_error h]

/-- Two computations come to the same result where each of their steps does. -/
theorem result_bind_congr {τ : Type} {act : Act σ α} {other : Act τ α} {next : α → Act σ β}
    {after : α → Act τ β} {state : σ} {state' : τ} (h : (act state).result = (other state').result)
    (hnext : ∀ value, (next value (act state).state).result =
      (after value (other state').state).result) :
    ((act >>= next) state).result = ((other >>= after) state').result := by
  cases hother : (other state').result with
  | error fault => rw [result_bind_of_error (h.trans hother), result_bind_of_error hother]
  | ok value => rw [result_bind (h.trans hother), result_bind hother, hnext]

theorem exists_of_result_bind {act : Act σ α} {next : α → Act σ β} {state : σ} {value : β}
    (h : ((act >>= next) state).result = .ok value) :
    ∃ first, (act state).result = .ok first ∧
      (next first (act state).state).result = .ok value := by
  rcases bind_cases act next state with ⟨fault, _, heq⟩ | ⟨first, hfirst, heq⟩
  · rw [heq] at h
    cases h
  · rw [heq] at h
    exact ⟨first, hfirst, h⟩

theorem ofExcept_result {result : Except Fault α} {value : α} (h : result = .ok value) (state : σ) :
    (Act.ofExcept result state).result = .ok value := by
  rw [h]
  rfl

theorem ofValue_result {result : Except BadValue α} {value : α} (h : result = .ok value)
    (state : σ) : (Act.ofValue result state).result = .ok value := by
  rw [h]
  rfl

theorem eq_ok_of_ofExcept {result : Except Fault α} {state : σ} {value : α}
    (h : (Act.ofExcept result state).result = .ok value) : result = .ok value := by
  cases result with
  | ok other => exact h
  | error fault => exact h

theorem eq_ok_of_ofValue {result : Except BadValue α} {state : σ} {value : α}
    (h : (Act.ofValue result state).result = .ok value) : result = .ok value := by
  cases result with
  | ok other => exact congrArg Except.ok (Except.ok.inj h)
  | error problem => cases h

theorem either_result (act : Act σ α) (next : Except Fault α → Act σ β) (state : σ) :
    (act.either next state).result = (next (act state).result (act state).state).result := rfl

/-- A computation that leaves a part of the state alone and does only things of one sort. -/
def Keeps (view : σ → γ) (allowed : Event → Prop) (act : Act σ α) : Prop :=
  ∀ state, view (act state).state = view state ∧ ∀ event ∈ (act state).events, allowed event

namespace Keeps

variable {view : σ → γ} {allowed : Event → Prop}

theorem pure (value : α) : Keeps view allowed (Pure.pure value : Act σ α) :=
  fun _ => ⟨rfl, fun _ => List.not_mem_nil.elim⟩

theorem fail (fault : Fault) : Keeps view allowed (Act.fail fault : Act σ α) :=
  fun _ => ⟨rfl, fun _ => List.not_mem_nil.elim⟩

theorem ask (f : σ → α) : Keeps view allowed (Act.ask f) :=
  fun _ => ⟨rfl, fun _ => List.not_mem_nil.elim⟩

theorem emit {event : Event} (h : allowed event) : Keeps view allowed (Act.emit event : Act σ Unit) := by
  intro state
  refine ⟨rfl, fun other ho => ?_⟩
  rw [emit_apply, List.mem_singleton] at ho
  exact ho ▸ h

theorem modify {f : σ → σ} (h : ∀ state, view (f state) = view state) :
    Keeps view allowed (Act.modify f) :=
  fun state => ⟨h state, fun _ => List.not_mem_nil.elim⟩

theorem ofExcept (result : Except Fault α) : Keeps view allowed (Act.ofExcept result : Act σ α) := by
  cases result with
  | ok value => exact pure value
  | error fault => exact fail fault

theorem ofValue (result : Except BadValue α) : Keeps view allowed (Act.ofValue result : Act σ α) := by
  cases result with
  | ok value => exact pure value
  | error problem => exact fail (.badValue problem)

theorem bind {act : Act σ α} {next : α → Act σ β} (hact : Keeps view allowed act)
    (hnext : ∀ value, Keeps view allowed (next value)) : Keeps view allowed (act >>= next) := by
  intro state
  obtain ⟨hview, hevents⟩ := hact state
  rcases bind_cases act next state with ⟨fault, _, heq⟩ | ⟨value, _, heq⟩
  · rw [heq]
    exact ⟨hview, hevents⟩
  · obtain ⟨hview', hevents'⟩ := hnext value (act state).state
    rw [heq]
    refine ⟨hview'.trans hview, fun event he => ?_⟩
    rcases List.mem_append.mp he with he | he
    · exact hevents event he
    · exact hevents' event he

theorem either {act : Act σ α} {next : Except Fault α → Act σ β} (hact : Keeps view allowed act)
    (hnext : ∀ result, Keeps view allowed (next result)) : Keeps view allowed (act.either next) := by
  intro state
  obtain ⟨hview, hevents⟩ := hact state
  obtain ⟨hview', hevents'⟩ := hnext (act state).result (act state).state
  refine ⟨hview'.trans hview, fun event he => ?_⟩
  rcases List.mem_append.mp he with he | he
  · exact hevents event he
  · exact hevents' event he

theorem requests_eq_nil {act : Act σ α} (h : Keeps view allowed act)
    (hallowed : ∀ event, allowed event → event.request? = none) (state : σ) :
    Event.requests (act state).events = [] :=
  Event.requests_eq_nil fun event he => hallowed event ((h state).2 event he)

end Keeps

/-- A computation that leaves the state alone and neither asks for the feed nor waits. -/
abbrev Local (act : Act σ α) : Prop := Keeps id Event.IsLocal act

/-- A computation that only looks at the state and writes to the log. -/
abbrev Noted (act : Act σ α) : Prop := Keeps id Event.IsLogged act

theorem Noted.log (level : Level) (message : String) : Noted (Act.log level message : Act σ Unit) :=
  Keeps.emit (.intro level message)

theorem Noted.isLocal {act : Act σ α} (h : Noted act) : Local act :=
  fun state => ⟨(h state).1, fun event he => ((h state).2 event he).isLocal⟩

theorem Local.state_eq {act : Act σ α} (h : Local act) (state : σ) : (act state).state = state :=
  (h state).1

theorem Local.requests_eq_nil {act : Act σ α} (h : Local act) (state : σ) :
    Event.requests (act state).events = [] :=
  Keeps.requests_eq_nil h (fun _ he => he.1) state

/-- The same state is left and the same requests were made. -/
def SameTraffic (first : Outcome σ α) (second : Outcome σ β) : Prop :=
  first.state = second.state ∧ Event.requests first.events = Event.requests second.events

theorem SameTraffic.trans {first : Outcome σ α} {second : Outcome σ β} {third : Outcome σ γ}
    (h : SameTraffic first second) (h' : SameTraffic second third) : SameTraffic first third :=
  ⟨h.1.trans h'.1, h.2.trans h'.2⟩

theorem Local.sameTraffic {act : Act σ α} (h : Local act) (state : σ) :
    SameTraffic (act state) (⟨.ok (), state, []⟩ : Outcome σ Unit) :=
  ⟨h.state_eq state, h.requests_eq_nil state⟩

theorem sameTraffic_bind {act : Act σ α} {next : α → Act σ β} (h : ∀ value, Local (next value))
    (state : σ) : SameTraffic ((act >>= next) state) (act state) := by
  rcases bind_cases act next state with ⟨fault, _, heq⟩ | ⟨value, _, heq⟩
  · rw [heq]
    exact ⟨rfl, rfl⟩
  · rw [heq]
    refine ⟨(h value).state_eq _, ?_⟩
    rw [Event.requests_append, (h value).requests_eq_nil, List.append_nil]

theorem sameTraffic_either {act : Act σ α} {next : Except Fault α → Act σ β}
    (h : ∀ result, Local (next result)) (state : σ) :
    SameTraffic (act.either next state) (act state) := by
  refine ⟨(h _).state_eq _, ?_⟩
  show Event.requests ((act state).events ++ _) = _
  rw [Event.requests_append, (h _).requests_eq_nil, List.append_nil]

end Act

end ReleaseLines
