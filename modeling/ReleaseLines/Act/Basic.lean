import ReleaseLines.Act.Event
import ReleaseLines.Fault

namespace ReleaseLines

/-- What a computation leaves behind: a result or a fault, the state, and what it was seen to do. -/
structure Outcome (σ α : Type) where
  result : Except Fault α
  state : σ
  events : List Event

/-- A computation that may fail, change a state and be seen to do things. -/
def Act (σ α : Type) : Type := σ → Outcome σ α

namespace Act

variable {σ τ α β : Type}

def pure (value : α) : Act σ α := fun state => ⟨.ok value, state, []⟩

def fail (fault : Fault) : Act σ α := fun state => ⟨.error fault, state, []⟩

/-- Goes on with the result. A fault ends the computation and keeps what was done before it. -/
def bind (act : Act σ α) (next : α → Act σ β) : Act σ β := fun state =>
  let first := act state
  match first.result with
  | .error fault => ⟨.error fault, first.state, first.events⟩
  | .ok value =>
    let second := next value first.state
    ⟨second.result, second.state, first.events ++ second.events⟩

instance : Monad (Act σ) where
  pure := Act.pure
  bind := Act.bind

/-- Goes on with the result or the fault, whichever it is. -/
def either (act : Act σ α) (next : Except Fault α → Act σ β) : Act σ β := fun state =>
  let first := act state
  let second := next first.result first.state
  ⟨second.result, second.state, first.events ++ second.events⟩

def emit (event : Event) : Act σ Unit := fun state => ⟨.ok (), state, [event]⟩

def log (level : Level) (message : String) : Act σ Unit := emit (.logged level message)

/-- Prints a line. -/
def print (line : String) : Act σ Unit := emit (.printed (line ++ "\n"))

/-- The current state, or a part of it. -/
def ask (view : σ → α) : Act σ α := fun state => ⟨.ok (view state), state, []⟩

def modify (f : σ → σ) : Act σ Unit := fun state => ⟨.ok (), f state, []⟩

def ofExcept : Except Fault α → Act σ α
  | .ok value => pure value
  | .error fault => fail fault

/-- A value, unless something stood for no value. -/
def ofValue : Except BadValue α → Act σ α
  | .ok value => pure value
  | .error problem => fail (.badValue problem)

/-- Runs on a part of a larger state. -/
def within (view : τ → σ) (update : τ → σ → τ) (act : Act σ α) : Act τ α := fun state =>
  let inner := act (view state)
  ⟨inner.result, update state inner.state, inner.events⟩

@[simp] theorem pure_apply (value : α) (state : σ) :
    (Pure.pure value : Act σ α) state = ⟨.ok value, state, []⟩ := rfl

@[simp] theorem fail_apply (fault : Fault) (state : σ) :
    (fail fault : Act σ α) state = ⟨.error fault, state, []⟩ := rfl

@[simp] theorem emit_apply (event : Event) (state : σ) :
    emit event state = ⟨.ok (), state, [event]⟩ := rfl

@[simp] theorem ask_apply (view : σ → α) (state : σ) :
    ask view state = ⟨.ok (view state), state, []⟩ := rfl

@[simp] theorem modify_apply (f : σ → σ) (state : σ) :
    modify f state = ⟨.ok (), f state, []⟩ := rfl

theorem bind_apply_of_ok {act : Act σ α} {next : α → Act σ β} {state : σ} {value : α}
    (h : (act state).result = .ok value) :
    (act >>= next) state =
      { next value (act state).state with
        events := (act state).events ++ (next value (act state).state).events } := by
  simp only [Bind.bind, Act.bind, h]

theorem bind_apply_of_error {act : Act σ α} {next : α → Act σ β} {state : σ} {fault : Fault}
    (h : (act state).result = .error fault) :
    (act >>= next) state = ⟨.error fault, (act state).state, (act state).events⟩ := by
  simp only [Bind.bind, Act.bind, h]

end Act

end ReleaseLines
