import ReleaseLines.Proofs.Configuration.Checks
import ReleaseLines.Proofs.Output.Run
import ReleaseLines.Proofs.Text.Case
import ReleaseLines.Proofs.Text.Trim

namespace ReleaseLines

variable {σ : Type}

open Act

/-- More than zero, however much more. -/
def Binary64.IsPositive : Binary64 → Prop
  | nan => False
  | infinite negative => negative = false
  | finite negative mantissa _ => negative = false ∧ 0 < mantissa

namespace Timeout

/-- More than zero seconds. -/
def IsPositive : Timeout → Prop
  | whole seconds => 0 < seconds
  | real seconds => seconds.IsPositive

/-- What is not at most zero is more than zero or not a number. -/
theorem isPositive_iff (t : Timeout) :
    t.IsPositive ↔ t.isAtMostZero = false ∧ t ≠ .real .nan := by
  cases t with
  | whole seconds => simp [IsPositive, isAtMostZero]
  | real seconds =>
    cases seconds with
    | nan => simp [IsPositive, Binary64.IsPositive]
    | infinite negative =>
      simp [IsPositive, Binary64.IsPositive, isAtMostZero, Binary64.isAtMostZero]
    | finite negative mantissa exponent =>
      simp [IsPositive, Binary64.IsPositive, isAtMostZero, Binary64.isAtMostZero,
        Nat.pos_iff_ne_zero]

theorem isZero_eq_false {t : Timeout} (h : t.isAtMostZero = false) : t.isZero = false := by
  cases t with
  | whole seconds =>
    have hpos : 0 < seconds := by simpa [isAtMostZero] using h
    simp only [isZero, beq_eq_false_iff_ne]
    omega
  | real seconds =>
    cases seconds with
    | nan => rfl
    | infinite negative => rfl
    | finite negative mantissa exponent =>
      simp only [isAtMostZero, Binary64.isAtMostZero, Bool.or_eq_false_iff] at h
      exact h.2

end Timeout

namespace Feed.Client

/-- A client keeps the settings it was asked for if its time limit is not zero and it need not
retry less than never. -/
theorem exists_prepare_keeps {settings : Settings} (htimeout : settings.timeout.isZero = false)
    (hretries : 0 ≤ settings.retries) (desk : Desk) :
    ∃ client, (prepare settings desk).result = .ok client ∧ client.address = settings.address ∧
      client.timeout = settings.timeout ∧ (client.retries : Int) = settings.retries := by
  have hmake : make settings.address (some settings.timeout) (some settings.retries)
      defaultLifetime =
        .ok ⟨settings.address, settings.timeout, settings.retries.toNat, defaultLifetime⟩ := by
    have hallowed : (some settings.retries).any (· < 0) = false := by simpa using hretries
    have hkept : (some settings.timeout).filter (!·.isZero) = some settings.timeout := by
      simp [htimeout]
    rw [make, hallowed, hkept]
    rfl
  refine ⟨⟨settings.address, settings.timeout, settings.retries.toNat, defaultLifetime⟩, ?_, rfl,
    rfl, Int.toNat_of_nonneg hretries⟩
  rw [prepare_of_make hmake]

end Feed.Client

namespace Configuration

/-- A configuration in which all but the timeout is what a run can use. -/
structure IsReady (c : Configuration) : Prop where
  expression : c.expression ≠ ""
  untrimmed : ∀ blank ∈ c.expression.toList.head?, Text.isBlank blank = false
  untrailed : ∀ blank ∈ c.expression.toList.getLast?, Text.isBlank blank = false
  retries : 0 ≤ c.retries
  outputFormat : c.outputFormat ∈ outputFormats
  logLevel : c.logLevel ∈ logLevels
  address : c.CanAsk

theorem isCapital_of_mem_logLevels :
    ∀ level ∈ logLevels, ∀ c ∈ level.toList, Text.isCapital c = true := by
  have hall : logLevels.all (fun level => level.toList.all Text.isCapital) = true := by decide
  simpa only [List.all_eq_true] using hall

theorem isReady_assemble {choices : Choices} {found : Variables}
    (hsound : (assemble choices found).IsSound) (hask : (assemble choices found).CanAsk) :
    (assemble choices found).IsReady := by
  have htrimmed : (assemble choices found).expression.toList =
      Text.trim (choices.expression.getD "").toList := String.toList_ofList
  refine ⟨?_, ?_, ?_, hsound.retries, hsound.outputFormat, ?_, hask⟩
  · intro hempty
    have hblank := hsound.expression
    rw [hempty] at hblank
    cases hblank
  · intro c hc
    exact Text.head?_trim (htrimmed ▸ hc)
  · intro c hc
    exact Text.getLast?_trim (htrimmed ▸ hc)
  · -- the level is an upper case already, and what the check looks up is its upper case
    have hlevel := hsound.logLevel
    have hsame := Text.uppercase_eq_of_isCapital (isCapital_of_mem_logLevels _ hlevel)
    show Text.uppercase (filled choices.logLevel "INFO") ∈ logLevels
    rw [← hsame]
    exact hlevel

/-- A configuration that is made can be used: a client is made with its settings. Its timeout is
more than zero unless what was given for it is not a number, which is let through. -/
theorem isReady_of_make {choices : Choices} {found : Variables} {state : σ} {c : Configuration}
    (h : (make choices found state).result = .ok c) :
    c.IsReady ∧ (c.timeout.IsPositive ∨ c.timeout = .real .nan) ∧
      (c.timeout = .real .nan ↔ choices.timeout = some (.real .nan)) ∧
      ∀ desk, ∃ client, (Feed.Client.prepare c.clientSettings desk).result = .ok client ∧
        client.address = c.address ∧ client.timeout = c.timeout ∧
        (client.retries : Int) = c.retries := by
  obtain ⟨rfl, hsound, hask⟩ := make_result_eq_ok_iff.mp h
  refine ⟨isReady_assemble hsound hask, ?_, ?_, fun desk =>
    Feed.Client.exists_prepare_keeps (Timeout.isZero_eq_false hsound.timeout) hsound.retries desk⟩
  · rw [Timeout.isPositive_iff]
    by_cases hnan : (assemble choices found).timeout = .real .nan
    · exact .inr hnan
    · exact .inl ⟨hsound.timeout, hnan⟩
  · show choices.timeout.getD Feed.defaultTimeout = .real .nan ↔ _
    cases choices.timeout with
    | none => simp [Feed.defaultTimeout]
    | some timeout => simp

theorem isReady_of_make_half_second :
    ∃ c, (make { expression := some " >=3.9 ", timeout := some (.real (.finite false 1 (-1))),
                 offline := some true, logLevel := some "debug" } ⟨none, none⟩ ()).result = .ok c ∧
      c.IsReady ∧ c.timeout.IsPositive := by
  have hmade :
      (make { expression := some " >=3.9 ", timeout := some (.real (.finite false 1 (-1))),
              offline := some true, logLevel := some "debug" } ⟨none, none⟩ ()).result =
        .ok { expression := ">=3.9", timeout := .real (.finite false 1 (-1)),
              offline := true, logLevel := "DEBUG" } := by
    decide +kernel
  obtain ⟨hready, hpositive | hnan, _⟩ := isReady_of_make hmade
  · exact ⟨_, hmade, hready, hpositive⟩
  · cases hnan

/-- A timeout that is not a number passes the check, so not every configuration has one of more than
zero. -/
theorem not_always_isPositive_of_make :
    ¬∀ (choices : Choices) (found : Variables) (c : Configuration),
      (make choices found ()).result = .ok c → c.timeout.IsPositive := by
  intro hall
  have hmade : (make { expression := some ">=3.9", timeout := some (.real .nan) }
      ⟨none, none⟩ ()).result = .ok { expression := ">=3.9", timeout := .real .nan } := by
    decide +kernel
  exact hall _ _ _ hmade

end Configuration

end ReleaseLines
