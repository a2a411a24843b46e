import BidSystem.AgentRuntime.Retries
import BidSystem.Shared.Float
import Mathlib.Tactic.Positivity

/-!
# Retries with delays in floating point

`BACKOFF_MULTIPLIER ** (attempt - 1)` is computed before `min` bounds it, and raises
from the 1025th attempt on.  `ToolSpec` bounds neither the number of attempts nor
excludes `nan` and infinite delays, which `asyncio.sleep` refuses or never returns from.
-/

namespace BidSystem.AgentRuntime

open Interaction ToolExecutor

variable {Payload Context : Type}

/-- `_retry_delay`.  `2.0 ** (attempt - 1)` raises if it is too large for a `float`. -/
def floatDelay (spec : ToolSpec PyFloat) (attempt : ℕ) : Except PyError PyFloat :=
  if 1023 < attempt - 1 then .error .overflowError
  else .ok ((spec.retryBaseDelaySeconds.timesPowerOfTwo (attempt - 1)).min
    spec.retryMaxDelaySeconds)

/-- `asyncio.sleep`. -/
def asyncioSleep : PyFloat → Sleep
  | .nan => .raised (.valueError "Invalid delay: NaN (not a number)")
  | .inf => .never
  | .negInf => .woke
  | .real _ => .woke

/-- An executor with the default sleeper. -/
def ToolExecutor.default (registry : ToolRegistry PyFloat Payload Context)
    (utcClock : RuntimeEventType → ℕ → Instant) (elapsedMs : ℕ → PyFloat) :
    ToolExecutor PyFloat Payload Context where
  registry
  utcClock
  elapsedMs
  sleeper := asyncioSleep
  retryDelay := floatDelay

/-! ## Delays that end -/

/-- The delay after an attempt is computed and finite. -/
structure Delayable (spec : ToolSpec PyFloat) (attempt : ℕ) : Prop where
  power : attempt ≤ 1024
  delay : ∃ base, spec.retryBaseDelaySeconds = .real base ∧
    ((∃ bound, spec.retryMaxDelaySeconds = .real bound) ∨ base * 2 ^ (attempt - 1) < 2 ^ 1024)

/-- A valid base delay is a positive number, infinite or `nan`. -/
theorem baseDelay_cases (spec : ToolSpec PyFloat) :
    (∃ base, 0 < base ∧ spec.retryBaseDelaySeconds = .real base) ∨
      spec.retryBaseDelaySeconds = .inf ∨ spec.retryBaseDelaySeconds = .nan := by
  have positive := spec.baseDelayPositive
  cases given : spec.retryBaseDelaySeconds with
  | real base =>
      rw [given, PyFloat.zero_eq, PyFloat.real_le_real, not_le] at positive
      exact .inl ⟨base, positive, rfl⟩
  | inf => exact .inr (.inl rfl)
  | negInf =>
      rw [given] at positive
      exact absurd rfl positive
  | nan => exact .inr (.inr rfl)

/-- A valid upper bound below infinity is not below the base. -/
theorem maxDelay_cases {spec : ToolSpec PyFloat} {base : ℚ}
    (given : spec.retryBaseDelaySeconds = .real base) :
    (∃ bound, base ≤ bound ∧ spec.retryMaxDelaySeconds = .real bound) ∨
      spec.retryMaxDelaySeconds = .inf ∨ spec.retryMaxDelaySeconds = .nan := by
  have notBelow := spec.maxDelayNotBelowBase
  rw [given] at notBelow
  cases bounded : spec.retryMaxDelaySeconds with
  | real bound =>
      rw [bounded, PyFloat.real_lt_real, not_lt] at notBelow
      exact .inl ⟨bound, notBelow, rfl⟩
  | inf => exact .inr (.inl rfl)
  | negInf =>
      rw [bounded] at notBelow
      exact absurd rfl notBelow
  | nan => exact .inr (.inr rfl)

/-- What the bound makes of a delay of which the base is a number. -/
theorem min_cases {spec : ToolSpec PyFloat} {base : ℚ} (positive : 0 < base)
    (given : spec.retryBaseDelaySeconds = .real base) (exponent : ℕ) :
    ((∃ delay, 0 < delay ∧
        ((PyFloat.real base).timesPowerOfTwo exponent).min spec.retryMaxDelaySeconds = .real delay) ∧
      ((∃ bound, spec.retryMaxDelaySeconds = .real bound) ∨ base * 2 ^ exponent < 2 ^ 1024)) ∨
    (((PyFloat.real base).timesPowerOfTwo exponent).min spec.retryMaxDelaySeconds = .inf ∧
      ¬ ((∃ bound, spec.retryMaxDelaySeconds = .real bound) ∨ base * 2 ^ exponent < 2 ^ 1024)) := by
  have product : 0 < base * 2 ^ exponent := by positivity
  have notLow : ¬ base * 2 ^ exponent ≤ -2 ^ 1024 :=
    not_le.mpr ((neg_neg_of_pos (by positivity)).trans product)
  rw [PyFloat.timesPowerOfTwo, if_neg notLow]
  by_cases large : 2 ^ 1024 ≤ base * 2 ^ exponent
  · rw [if_pos large]
    rcases maxDelay_cases given with ⟨bound, above, bounded⟩ | bounded | bounded
    · rw [bounded]
      exact .inl ⟨⟨bound, positive.trans_le above, rfl⟩, .inl ⟨bound, rfl⟩⟩
    all_goals
      rw [bounded]
      exact .inr ⟨rfl, fun finite => finite.elim nofun (not_lt.mpr large)⟩
  · rw [if_neg large]
    refine .inl ⟨?_, .inr (not_le.mp large)⟩
    rcases maxDelay_cases given with ⟨bound, above, bounded⟩ | bounded | bounded
    · rw [bounded, PyFloat.min]
      split_ifs
      · exact ⟨bound, positive.trans_le above, rfl⟩
      · exact ⟨_, product, rfl⟩
    all_goals
      rw [bounded]
      exact ⟨_, product, rfl⟩

/-- What the bound makes of an infinite base. -/
theorem min_of_inf {spec : ToolSpec PyFloat} (given : spec.retryBaseDelaySeconds = .inf) :
    PyFloat.inf.min spec.retryMaxDelaySeconds = .inf := by
  have notBelow := spec.maxDelayNotBelowBase
  rw [given] at notBelow
  rw [PyFloat.min, if_neg notBelow]

/-- No bound makes a number of `nan`. -/
theorem min_of_nan (bound : PyFloat) : PyFloat.nan.min bound = .nan := by
  cases bound <;> rfl

/-- A delay that is computed is not negative. -/
theorem floatDelay_not_neg {spec : ToolSpec PyFloat} {attempt : ℕ} {delay : PyFloat}
    (computed : floatDelay spec attempt = .ok delay) : ¬ delay < 0 := by
  unfold floatDelay at computed
  split_ifs at computed
  cases computed
  rcases baseDelay_cases spec with ⟨base, positive, given⟩ | given | given
  · rw [given]
    rcases min_cases positive given (attempt - 1) with ⟨⟨delay, above, result⟩, -⟩ | ⟨result, -⟩
    · rw [result, PyFloat.zero_eq, PyFloat.real_lt_real]
      exact not_lt.mpr above.le
    · rw [result]
      exact Bool.false_ne_true
  · rw [given, PyFloat.timesPowerOfTwo, min_of_inf given]
    exact Bool.false_ne_true
  · rw [given, PyFloat.timesPowerOfTwo, min_of_nan]
    exact Bool.false_ne_true

/-- **A delay ends** if it is computed and finite, and only then. -/
theorem wakes_iff {spec : ToolSpec PyFloat} {attempt : ℕ} :
    (∃ delay, floatDelay spec attempt = .ok delay ∧ asyncioSleep delay = .woke) ↔
      Delayable spec attempt := by
  unfold floatDelay
  constructor
  · rintro ⟨delay, computed, woke⟩
    split_ifs at computed with large
    cases computed
    refine ⟨by omega, ?_⟩
    rcases baseDelay_cases spec with ⟨base, positive, given⟩ | given | given
    · rw [given] at woke
      rcases min_cases positive given (attempt - 1) with ⟨-, finite⟩ | ⟨result, -⟩
      · exact ⟨base, given, finite⟩
      · rw [result] at woke
        cases woke
    · rw [given, PyFloat.timesPowerOfTwo, min_of_inf given] at woke
      cases woke
    · rw [given, PyFloat.timesPowerOfTwo, min_of_nan] at woke
      cases woke
  · rintro ⟨power, base, given, finite⟩
    rw [if_neg (by omega)]
    refine ⟨_, rfl, ?_⟩
    rcases baseDelay_cases spec with ⟨base', positive, given'⟩ | given' | given'
    · rw [given] at given'
      cases given'
      rw [given]
      rcases min_cases positive given (attempt - 1) with ⟨⟨delay, -, result⟩, -⟩ | ⟨-, infinite⟩
      · rw [result]
        rfl
      · exact absurd finite infinite
    · rw [given] at given'
      cases given'
    · rw [given] at given'
      cases given'

/-! ## Executions -/

/-- The loop returns if every delay that is due ends. -/
theorem executeAttempts_returns_iff (executor : ToolExecutor PyFloat Payload Context)
    (computes : executor.retryDelay = floatDelay) (sleeps : executor.sleeper = asyncioSleep)
    (tool : Tool PyFloat Payload Context) (inputData : Payload) (context : Context) :
    (∃ response effects, executor.executeAttempts tool inputData context
        tool.spec.maxAttempts.toNat 1 [] = (.ok response, effects)) ↔
      ∀ attempt : ℕ, 1 ≤ attempt →
        (∀ earlier, 1 ≤ earlier → earlier ≤ attempt → Due tool inputData context earlier) →
          Delayable tool.spec attempt := by
  have wakes : ∀ attempt, (∃ delay, executor.Wakes tool attempt delay) ↔
      Delayable tool.spec attempt := by
    intro attempt
    rw [← wakes_iff]
    simp only [Wakes, computes, sleeps]
  have notNegative : ∀ later delay, executor.retryDelay tool.spec later = .ok delay → ¬ delay < 0 := by
    intro later delay computed
    rw [computes] at computed
    exact floatDelay_not_neg computed
  have atLeastOne := tool.spec.maxAttemptsAtLeastOne
  constructor
  · rintro ⟨response, effects, ran⟩ attempt counted chain
    by_contra endless
    obtain ⟨halt, halted⟩ := executeAttempts_halts (attempt - 1) [] le_rfl notNegative
      (fun between low high => chain between low (by omega))
      (fun delay woke => endless ((wakes attempt).mp
        ⟨delay, by rwa [Nat.add_sub_cancel' counted] at woke⟩))
    rw [ran] at halted
    cases halted
  · intro delayable
    choose! delay woke using fun attempt counted chain =>
      (wakes attempt).mpr (delayable attempt counted chain)
    obtain ⟨remaining, budget⟩ : ∃ remaining, tool.spec.maxAttempts.toNat = remaining + 1 :=
      ⟨tool.spec.maxAttempts.toNat - 1, by omega⟩
    obtain ⟨count, -, -, -, ran⟩ := executeAttempts_returns executor remaining [] (by omega) (fun later counted chain =>
        ⟨woke later counted chain, notNegative later _ (woke later counted chain).1⟩)
    rw [budget]
    exact ⟨_, _, ran⟩

/-- **Delays in floating point**: with a valid input, an execution returns unless a
retry is due after more than 1024 attempts, or after an infinite delay or `nan`. -/
theorem execute_returns_iff (registry : ToolRegistry PyFloat Payload Context)
    (utcClock : RuntimeEventType → ℕ → Instant) (elapsedMs : ℕ → PyFloat)
    {toolName : String} {tool : Tool PyFloat Payload Context}
    (registered : registry.get toolName = some tool) {inputData : Payload}
    (accepted : tool.inputSchema inputData = true) (context : Context) :
    (∃ response effects,
      (ToolExecutor.default registry utcClock elapsedMs).execute inputData context toolName [] =
        (.ok response, effects)) ↔
      ∀ attempt : ℕ, 1 ≤ attempt → (attempt : ℤ) < tool.spec.maxAttempts →
        tool.spec.idempotent = true →
        (∀ earlier, 1 ≤ earlier → earlier ≤ attempt →
          FailedRetryably tool inputData context earlier) →
        Delayable tool.spec attempt := by
  have loop : (ToolExecutor.default registry utcClock elapsedMs).execute inputData context
        toolName [] =
      (ToolExecutor.default registry utcClock elapsedMs).executeAttempts tool inputData context
        tool.spec.maxAttempts.toNat 1 [] := by
    rw [execute, show (ToolExecutor.default registry utcClock elapsedMs).registry = registry from rfl,
      registered]
    simp only [accepted, Bool.not_true, Bool.false_eq_true, if_false]
  rw [loop, executeAttempts_returns_iff _ rfl rfl]
  constructor
  · intro delayable attempt counted more repeatable chain
    refine delayable attempt counted fun earlier low high => ?_
    exact due_iff.mpr ⟨chain earlier low high, repeatable, by omega⟩
  · intro delayable attempt counted chain
    obtain ⟨-, repeatable, more⟩ := due_iff.mp (chain attempt counted le_rfl)
    exact delayable attempt counted more repeatable
      fun earlier low high => (due_iff.mp (chain earlier low high)).1

/-! ## A tool that is never ready -/

/-- A specification that allows so many attempts. -/
def patientSpec (maxAttempts : ℤ) (atLeastOne : 1 ≤ maxAttempts) : ToolSpec PyFloat where
  name := "product_fact_extract"
  timeoutSeconds := .real 1
  maxAttempts
  retryBaseDelaySeconds := .real (1 / 2)
  retryMaxDelaySeconds := .real 5
  idempotent := true
  toolName := slowSpec.toolName
  timeoutPositive := by decide +kernel
  maxAttemptsAtLeastOne := atLeastOne
  baseDelayPositive := by decide +kernel
  maxDelayNotBelowBase := by decide +kernel

/-- A tool that always takes too long. -/
def patientTool (maxAttempts : ℤ) (atLeastOne : 1 ≤ maxAttempts) : Tool PyFloat String Unit where
  spec := patientSpec maxAttempts atLeastOne
  inputSchema _ := true
  outputSchema _ := true
  invoke _ _ _ := .timeoutError

/-- Every attempt of the tool fails and may be repeated. -/
theorem failedRetryably_patientTool (maxAttempts : ℤ) (atLeastOne : 1 ≤ maxAttempts)
    (attempt : ℕ) :
    FailedRetryably (patientTool maxAttempts atLeastOne) "source-1" () attempt :=
  ⟨toolTimeout, rfl, rfl⟩

/-- The tool is retried twice, and then its timeout is returned. -/
theorem execute_returns_patientTool :
    ∃ response effects,
      (ToolExecutor.default ⟨[patientTool 3 (by decide)], List.nodup_singleton _⟩ (fun _ _ => 0)
          (fun _ => 0)).execute "source-1" () "product_fact_extract" [] = (.ok response, effects) := by
  have registered : ToolRegistry.get ⟨[patientTool 3 (by decide)], List.nodup_singleton _⟩
      "product_fact_extract" = some (patientTool 3 (by decide)) := by
    simp [ToolRegistry.get, patientTool, patientSpec]
  refine (execute_returns_iff _ _ _ registered rfl ()).mpr ?_
  intro attempt _ few _ _
  have few : (attempt : ℤ) < 3 := few
  exact ⟨by omega, 1 / 2, rfl, .inl ⟨5, rfl⟩⟩

/-- With 1026 attempts it raises an `OverflowError` before the last one. -/
theorem execute_overflows :
    ((ToolExecutor.default ⟨[patientTool 1026 (by decide)], List.nodup_singleton _⟩ (fun _ _ => 0)
        (fun _ => 0)).execute "source-1" () "product_fact_extract" []).1 =
      .error (.raised .overflowError) := by
  have due : ∀ attempt < 1026, Due (patientTool 1026 (by decide)) "source-1" () attempt := by
    intro attempt few
    have few : (attempt : ℤ) < 1026 := by omega
    exact due_iff.mpr ⟨failedRetryably_patientTool _ _ _, rfl, few⟩
  choose! delay woke using fun attempt (few : attempt ≤ 1024) =>
    wakes_iff.mpr (show Delayable (patientSpec 1026 (by decide)) attempt from
      ⟨few, 1 / 2, rfl, .inl ⟨5, rfl⟩⟩)
  have overflows : ∀ effects, (ToolExecutor.default ⟨[patientTool 1026 (by decide)],
        List.nodup_singleton _⟩ (fun _ _ => 0) (fun _ => 0)).nextDelay
          (patientTool 1026 (by decide)) 1025 effects =
      ((.error (.raised .overflowError), effects) :
        Except Halt PyFloat × List (Effect PyFloat Unit)) := fun _ => rfl
  have rounds := executeAttempts_rounds
    (ToolExecutor.default ⟨[patientTool 1026 (by decide)], List.nodup_singleton _⟩
      (fun _ _ => 0) (fun _ => 0)) 1024 2 [] le_rfl fun earlier _ high =>
      ⟨due earlier (by omega), woke earlier (by omega),
        floatDelay_not_neg (woke earlier (by omega)).1⟩
  rw [execute, show ToolRegistry.get _ "product_fact_extract" =
    some (patientTool 1026 (by decide)) by simp [ToolRegistry.get, ToolExecutor.default, patientTool, patientSpec]]
  refine (congrArg Prod.fst rounds).trans ?_
  rw [executeAttempts_succ (by decide), settle_of_due (due 1025 (by decide)),
    Action.bind_of_error (overflows _)]

end BidSystem.AgentRuntime
