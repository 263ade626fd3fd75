import ReleaseLines.Proofs.Act.Keeps

namespace ReleaseLines.Act

variable {σ τ α β : Type}

theorem exists_of_bind_error {act : Act σ α} {next : α → Act σ β} {state : σ} {fault : Fault}
    (h : ((act >>= next) state).result = .error fault) :
    (act state).result = .error fault ∨
      ∃ value, (act state).result = .ok value ∧
        (next value (act state).state).result = .error fault := by
  rcases bind_cases act next state with ⟨first, hfirst, heq⟩ | ⟨value, hvalue, heq⟩
  · rw [heq] at h
    cases h
    exact .inl hfirst
  · rw [heq] at h
    exact .inr ⟨value, hvalue, h⟩

/-- A computation that fails with faults of one sort only. -/
def FailsWith (allowed : Fault → Prop) (act : Act σ α) : Prop :=
  ∀ state fault, (act state).result = .error fault → allowed fault

namespace FailsWith

variable {allowed : Fault → Prop}

theorem pure (value : α) : FailsWith allowed (Pure.pure value : Act σ α) := by
  intro state fault h
  cases h

theorem fail {fault : Fault} (h : allowed fault) :
    FailsWith allowed (Act.fail fault : Act σ α) := by
  intro state other hother
  cases hother
  exact h

theorem emit (event : Event) : FailsWith allowed (Act.emit event : Act σ Unit) := by
  intro state fault h
  cases h

theorem ask (view : σ → α) : FailsWith allowed (Act.ask view) := by
  intro state fault h
  cases h

theorem modify (f : σ → σ) : FailsWith allowed (Act.modify f) := by
  intro state fault h
  cases h

theorem ofExcept {result : Except Fault α} (h : ∀ fault, result = .error fault → allowed fault) :
    FailsWith allowed (Act.ofExcept result : Act σ α) := by
  cases result with
  | ok value => exact pure value
  | error fault => exact fail (h fault rfl)

theorem bind {act : Act σ α} {next : α → Act σ β} (hact : FailsWith allowed act)
    (hnext : ∀ value, FailsWith allowed (next value)) : FailsWith allowed (act >>= next) := by
  intro state fault h
  rcases exists_of_bind_error h with hfirst | ⟨value, _, hsecond⟩
  · exact hact state fault hfirst
  · exact hnext value _ fault hsecond

theorem within {act : Act σ α} (h : FailsWith allowed act) (view : τ → σ) (update : τ → σ → τ) :
    FailsWith allowed (act.within view update) :=
  fun state => h (view state)

end FailsWith

end ReleaseLines.Act
