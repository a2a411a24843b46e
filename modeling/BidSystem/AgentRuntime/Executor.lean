import BidSystem.AgentRuntime.Tools
import BidSystem.Interaction.Action
import Mathlib.Data.Nat.Find

/-!
# The tool executor

`ToolExecutor.execute` invokes a registered tool until an attempt succeeds, fails
for good, or is the last one.  It records an event before and after every attempt
and another one before it sleeps.

* `executeAttempts` — the loop of `execute` on the effects it has had.
* `Due` — an attempt that is followed by another one.
* `executeAttempts_returns` — the effects of the whole loop, if every delay that
  is due can be computed and ends.
* `executeAttempts_halts` — a delay that does not.

How a delay is computed is left open: `execute` is the same for exact delays and
for those of `float`.
-/

namespace BidSystem.AgentRuntime

open Interaction

variable {Seconds Payload Context : Type}

/-- What an execution does to its surroundings. -/
inductive Effect (Seconds Context : Type) where
  | recorded (event : RuntimeEvent Seconds Context)
  | invoked (attempt : ℕ)
  | slept (delay : Seconds)

/-- How a sleep ends. -/
inductive Sleep where
  | woke
  | raised (error : PyError)
  | never
deriving DecidableEq

/-- What keeps an execution from returning. -/
inductive Halt where
  | unknownToolError (toolName : String)
  | raised (error : PyError)
  | asleep
deriving DecidableEq

variable [Zero Seconds] [LE Seconds] [LT Seconds]

/-- `ToolExecutor`: its ports, and `_retry_delay`.  The clocks are read once for an event,
and the monotonic one around every attempt. -/
structure ToolExecutor (Seconds Payload Context : Type) [Zero Seconds] [LE Seconds] [LT Seconds]
    where
  registry : ToolRegistry Seconds Payload Context
  utcClock : RuntimeEventType → (attempt : ℕ) → Instant
  elapsedMs : (attempt : ℕ) → Seconds
  sleeper : Seconds → Sleep
  retryDelay : ToolSpec Seconds → (attempt : ℕ) → Except PyError Seconds

/-! ## One attempt -/

/-- The error of a tool whose time is up. -/
def toolTimeout : ToolError where
  code := .timeout
  message := "Tool execution timed out"
  retryable := true
  messageNotBlank := by decide

/-- The error of a tool that raised. -/
def toolExecutionFailure : ToolError where
  code := .executionFailed
  message := "Tool execution failed"
  messageNotBlank := by decide

/-- The error of an input outside its schema. -/
def toolInputSchema : ToolError where
  code := .invalidInput
  message := "Tool input does not match the registered schema"
  messageNotBlank := by decide

/-- The error of an output outside its schema. -/
def toolOutputSchema : ToolError where
  code := .executionFailed
  message := "Tool output does not match the registered schema"
  messageNotBlank := by decide

/-- The response and the terminal event of an invocation, in `_invoke_attempt`. -/
def Tool.interpret (tool : Tool Seconds Payload Context) :
    Invocation Payload → ToolResponse Payload × RuntimeEventType
  | .timeoutError => (.failure toolTimeout, .toolTimedOut)
  | .exception => (.failure toolExecutionFailure, .toolFailed)
  | .returned response =>
      if response.value.any fun value => !tool.outputSchema value then
        (.failure toolOutputSchema, .toolFailed)
      else (response, if response.isSuccess then .toolSucceeded else .toolFailed)

/-- `_should_retry`. -/
def shouldRetry (spec : ToolSpec Seconds) (error : ToolError) (attempt : ℕ) : Bool :=
  spec.idempotent && error.retryable && decide ((attempt : ℤ) < spec.maxAttempts)

namespace ToolExecutor

variable [DecidableLT Seconds] (executor : ToolExecutor Seconds Payload Context)
  (tool : Tool Seconds Payload Context) (inputData : Payload) (context : Context)

/-- The event of `_record`. -/
def event (eventType : RuntimeEventType) (attempt : ℕ) (durationMs : Seconds)
    (errorCode : Option ToolErrorCode) (retryDelaySeconds : Option Seconds) :
    RuntimeEvent Seconds Context where
  eventType
  occurredAt := executor.utcClock eventType attempt
  context
  toolName := tool.spec.name
  attempt
  durationMs
  errorCode
  retryDelaySeconds

/-- `_record`. -/
def record (eventType : RuntimeEventType) (attempt : ℕ) (durationMs : Seconds)
    (errorCode : Option ToolErrorCode) (retryDelaySeconds : Option Seconds) :
    Action (List (Effect Seconds Context)) Halt Unit := fun effects =>
  let event := executor.event tool context eventType attempt durationMs errorCode retryDelaySeconds
  match event.postInit with
  | .error error => (.error (.raised error), effects)
  | .ok () => (.ok (), effects ++ [.recorded event])

/-- `_invoke_attempt`. -/
def invokeAttempt (attempt : ℕ) :
    Action (List (Effect Seconds Context)) Halt (ToolResponse Payload × RuntimeEventType) :=
  fun effects =>
    (.ok (tool.interpret (tool.invoke inputData context attempt)), effects ++ [.invoked attempt])

/-- `_retry_delay`. -/
def nextDelay (attempt : ℕ) : Action (List (Effect Seconds Context)) Halt Seconds :=
  fun effects =>
    match executor.retryDelay tool.spec attempt with
    | .error error => (.error (.raised error), effects)
    | .ok delay => (.ok delay, effects)

/-- `await self._sleeper(retry_delay)`. -/
def sleep (delay : Seconds) : Action (List (Effect Seconds Context)) Halt Unit := fun effects =>
  match executor.sleeper delay with
  | .woke => (.ok (), effects ++ [.slept delay])
  | .raised error => (.error (.raised error), effects ++ [.slept delay])
  | .never => (.error .asleep, effects ++ [.slept delay])

/-- `max(0.0, …)`. -/
def durationMs (attempt : ℕ) : Seconds :=
  if 0 < executor.elapsedMs attempt then executor.elapsedMs attempt else 0

/-- The end of the body of the loop: return the response, or sleep and go on. -/
def settle (attempt : ℕ) (response : ToolResponse Payload)
    (again : Action (List (Effect Seconds Context)) Halt (ToolResponse Payload)) :
    Action (List (Effect Seconds Context)) Halt (ToolResponse Payload) :=
  if response.isSuccess then pure response
  else
    match response.error with
    | none => pure response
    | some error =>
        if !shouldRetry tool.spec error attempt then pure response
        else do
          let retryDelay ← executor.nextDelay tool attempt
          executor.record tool context .toolRetrying attempt (executor.durationMs attempt)
            (some error.code) (some retryDelay)
          executor.sleep retryDelay
          again

/-- The loop of `execute`, from an attempt on. -/
def executeAttempts : (remaining attempt : ℕ) →
    Action (List (Effect Seconds Context)) Halt (ToolResponse Payload)
  | 0, _ => .raise (.raised (.runtimeError "Tool execution exhausted an unreachable control path"))
  | remaining + 1, attempt => do
      executor.record tool context .toolStarted attempt 0 none none
      let invoked ← invokeAttempt tool inputData context attempt
      executor.record tool context invoked.2 attempt (executor.durationMs attempt)
        (invoked.1.error.map ToolError.code) none
      executor.settle tool context attempt invoked.1 (executeAttempts remaining (attempt + 1))

/-- `execute`. -/
def execute (toolName : String) :
    Action (List (Effect Seconds Context)) Halt (ToolResponse Payload) :=
  match executor.registry.get toolName with
  | none => .raise (.unknownToolError toolName)
  | some tool =>
      if !tool.inputSchema inputData then return .failure toolInputSchema
      else executor.executeAttempts tool inputData context tool.spec.maxAttempts.toNat 1

/-! ## The effects of one attempt -/

/-- The response of an attempt. -/
def response (attempt : ℕ) : ToolResponse Payload :=
  (tool.interpret (tool.invoke inputData context attempt)).1

/-- The terminal event of an attempt. -/
def terminalEvent (attempt : ℕ) : RuntimeEventType :=
  (tool.interpret (tool.invoke inputData context attempt)).2

/-- The attempt failed, and might succeed when it is repeated. -/
def FailedRetryably (attempt : ℕ) : Prop :=
  ∃ error ∈ (response tool inputData context attempt).error, error.retryable = true

/-- Another attempt is due after this one. -/
def Due (attempt : ℕ) : Prop :=
  ∃ error ∈ (response tool inputData context attempt).error,
    shouldRetry tool.spec error attempt = true

/-- The error code of an attempt. -/
def errorCode (attempt : ℕ) : Option ToolErrorCode :=
  (response tool inputData context attempt).error.map ToolError.code

/-- The event before a sleep. -/
def retryingEvent (attempt : ℕ) (delay : Seconds) : RuntimeEvent Seconds Context :=
  executor.event tool context .toolRetrying attempt (executor.durationMs attempt)
    (errorCode tool inputData context attempt) (some delay)

/-- The effects of an attempt up to its terminal event. -/
def attempted (attempt : ℕ) : List (Effect Seconds Context) :=
  [.recorded (executor.event tool context .toolStarted attempt 0 none none),
    .invoked attempt,
    .recorded (executor.event tool context (terminalEvent tool inputData context attempt) attempt
      (executor.durationMs attempt) (errorCode tool inputData context attempt) none)]

/-- The effects of an attempt with another one to follow. -/
def retried (attempt : ℕ) (delay : Seconds) : List (Effect Seconds Context) :=
  executor.attempted tool inputData context attempt ++
    [.recorded (executor.retryingEvent tool inputData context attempt delay), .slept delay]

/-- The delay of an attempt is computed and ends. -/
def Wakes (attempt : ℕ) (delay : Seconds) : Prop :=
  executor.retryDelay tool.spec attempt = .ok delay ∧ executor.sleeper delay = .woke

omit [DecidableLT Seconds] in
/-- The terminal event of an attempt says how it ended. -/
theorem terminalEvent_spec (attempt : ℕ) :
    (terminalEvent tool inputData context attempt = .toolTimedOut ∧
        tool.invoke inputData context attempt = .timeoutError ∧
        (response tool inputData context attempt).isSuccess = false) ∨
      (terminalEvent tool inputData context attempt = .toolFailed ∧
        tool.invoke inputData context attempt ≠ .timeoutError ∧
        (response tool inputData context attempt).isSuccess = false) ∨
      (terminalEvent tool inputData context attempt = .toolSucceeded ∧
        tool.invoke inputData context attempt ≠ .timeoutError ∧
        (response tool inputData context attempt).isSuccess = true) := by
  unfold terminalEvent response
  cases invoked : tool.invoke inputData context attempt with
  | timeoutError => exact .inl ⟨rfl, rfl, rfl⟩
  | exception => exact .inr (.inl ⟨rfl, nofun, rfl⟩)
  | returned given =>
      rw [Tool.interpret]
      split_ifs with wrong success
      · exact .inr (.inl ⟨rfl, nofun, rfl⟩)
      · exact .inr (.inr ⟨rfl, nofun, success⟩)
      · exact .inr (.inl ⟨rfl, nofun, Bool.eq_false_iff.mpr success⟩)

variable {tool inputData context}

omit [DecidableLT Seconds] in
/-- An attempt is followed by another one if it may be repeated. -/
theorem due_iff {attempt : ℕ} :
    Due tool inputData context attempt ↔
      FailedRetryably tool inputData context attempt ∧ tool.spec.idempotent = true ∧
        (attempt : ℤ) < tool.spec.maxAttempts := by
  simp only [Due, FailedRetryably, shouldRetry, Bool.and_eq_true, decide_eq_true_eq]
  constructor
  · rintro ⟨error, failed, ⟨idempotent, retryable⟩, more⟩
    exact ⟨⟨error, failed, retryable⟩, idempotent, more⟩
  · rintro ⟨⟨error, failed, retryable⟩, idempotent, more⟩
    exact ⟨error, failed, ⟨idempotent, retryable⟩, more⟩

variable (tool inputData context) [Std.Asymm (α := Seconds) (· < ·)]

omit [LE Seconds] in
/-- A duration is not negative. -/
theorem durationMs_not_neg [LE Seconds] (executor : ToolExecutor Seconds Payload Context)
    (attempt : ℕ) : ¬ executor.durationMs attempt < 0 := by
  unfold durationMs
  split_ifs with positive
  · exact Std.Asymm.asymm _ _ positive
  · exact fun negative => Std.Asymm.asymm _ _ negative negative

variable {executor tool inputData context}

omit [Std.Asymm (α := Seconds) (· < ·)] in
/-- An event is recorded if its delay is not negative. -/
theorem record_eq {eventType : RuntimeEventType} {attempt : ℕ} {durationMs : Seconds}
    {errorCode : Option ToolErrorCode} {retryDelay : Option Seconds} (counted : 1 ≤ attempt)
    (measured : ¬ durationMs < 0) (delayed : ∀ delay ∈ retryDelay, ¬ delay < 0)
    (effects : List (Effect Seconds Context)) :
    executor.record tool context eventType attempt durationMs errorCode retryDelay effects =
      (.ok (), effects ++ [.recorded
        (executor.event tool context eventType attempt durationMs errorCode retryDelay)]) := by
  have passes :
      (executor.event tool context eventType attempt durationMs errorCode retryDelay).postInit =
        .ok () :=
    RuntimeEvent.postInit_eq_ok (not_blank_of_isToolName tool.spec.toolName) counted measured
      delayed
  rw [record, passes]

omit [DecidableLT Seconds] [Std.Asymm (α := Seconds) (· < ·)] in
theorem invokeAttempt_eq (attempt : ℕ) (effects : List (Effect Seconds Context)) :
    invokeAttempt tool inputData context attempt effects =
      (.ok (response tool inputData context attempt, terminalEvent tool inputData context attempt),
        effects ++ [.invoked attempt]) := rfl

/-- An attempt has its effects, and then is the last one or not. -/
theorem executeAttempts_succ {remaining attempt : ℕ} (counted : 1 ≤ attempt)
    (effects : List (Effect Seconds Context)) :
    executor.executeAttempts tool inputData context (remaining + 1) attempt effects =
      executor.settle tool context attempt (response tool inputData context attempt)
        (executor.executeAttempts tool inputData context remaining (attempt + 1))
        (effects ++ executor.attempted tool inputData context attempt) := by
  have still : ¬ (0 : Seconds) < 0 := fun negative => Std.Asymm.asymm _ _ negative negative
  have noDelay : ∀ delay ∈ (none : Option Seconds), ¬ delay < 0 := fun _ member => nomatch member
  rw [executeAttempts, Action.bind_of_ok (record_eq counted still noDelay _),
    Action.bind_of_ok (invokeAttempt_eq _ _),
    Action.bind_of_ok (record_eq counted (durationMs_not_neg executor attempt) noDelay _)]
  simp only [List.append_assoc, List.cons_append, List.nil_append]
  rfl

omit [Std.Asymm (α := Seconds) (· < ·)] in
/-- The last attempt returns its response. -/
theorem settle_of_not_due {attempt : ℕ} (last : ¬ Due tool inputData context attempt)
    (again : Action (List (Effect Seconds Context)) Halt (ToolResponse Payload))
    (effects : List (Effect Seconds Context)) :
    executor.settle tool context attempt (response tool inputData context attempt) again effects =
      (.ok (response tool inputData context attempt), effects) := by
  unfold settle
  split_ifs
  · rfl
  · cases failed : (response tool inputData context attempt).error with
    | none => rfl
    | some error =>
        have kept : shouldRetry tool.spec error attempt = false := by
          rw [Bool.eq_false_iff]
          exact fun retried => last ⟨error, failed, retried⟩
        dsimp only
        rw [kept]
        rfl

omit [Std.Asymm (α := Seconds) (· < ·)] in
/-- An attempt with another one to follow computes a delay. -/
theorem settle_of_due {attempt : ℕ} (due : Due tool inputData context attempt)
    (again : Action (List (Effect Seconds Context)) Halt (ToolResponse Payload))
    (effects : List (Effect Seconds Context)) :
    executor.settle tool context attempt (response tool inputData context attempt) again effects =
      (executor.nextDelay tool attempt >>= fun delay =>
        executor.record tool context .toolRetrying attempt (executor.durationMs attempt)
          (errorCode tool inputData context attempt) (some delay) >>= fun _ =>
        executor.sleep delay >>= fun _ => again) effects := by
  obtain ⟨error, failed, retried⟩ := due
  have failed : (response tool inputData context attempt).error = some error := failed
  have unsuccessful : (response tool inputData context attempt).isSuccess = false := by
    rw [ToolResponse.isSuccess, failed]
    rfl
  rw [settle, unsuccessful, errorCode, failed]
  dsimp only
  rw [retried]
  rfl

/-! ## The loop -/

/-- The loop goes on after a delay that ends. -/
theorem executeAttempts_of_wakes {remaining attempt : ℕ} {delay : Seconds} (counted : 1 ≤ attempt)
    (due : Due tool inputData context attempt) (wakes : executor.Wakes tool attempt delay)
    (notNegative : ¬ delay < 0) (effects : List (Effect Seconds Context)) :
    executor.executeAttempts tool inputData context (remaining + 1) attempt effects =
      executor.executeAttempts tool inputData context remaining (attempt + 1)
        (effects ++ executor.retried tool inputData context attempt delay) := by
  have computed : ∀ effects : List (Effect Seconds Context),
      executor.nextDelay tool attempt effects = (.ok delay, effects) := by
    intro effects
    rw [nextDelay, wakes.1]
  have slept : ∀ effects : List (Effect Seconds Context),
      executor.sleep delay effects = (.ok (), effects ++ [.slept delay]) := by
    intro effects
    rw [sleep, wakes.2]
  have delayed : ∀ given ∈ some delay, ¬ given < 0 := by
    intro given member
    cases member
    exact notNegative
  rw [executeAttempts_succ counted, settle_of_due due, Action.bind_of_ok (computed _),
    Action.bind_of_ok (record_eq counted (durationMs_not_neg executor attempt) delayed _),
    Action.bind_of_ok (slept _)]
  rw [retried, retryingEvent]
  simp only [List.append_assoc, List.cons_append, List.nil_append]

omit [Std.Asymm (α := Seconds) (· < ·)] in
/-- A delay that cannot be computed or does not end is the end of the execution. -/
theorem settle_halts {attempt : ℕ} (due : Due tool inputData context attempt)
    (stuck : ∀ delay, ¬ executor.Wakes tool attempt delay)
    (again : Action (List (Effect Seconds Context)) Halt (ToolResponse Payload))
    (effects : List (Effect Seconds Context)) :
    ∃ halt, (executor.settle tool context attempt (response tool inputData context attempt) again
      effects).1 = .error halt := by
  rw [settle_of_due due]
  cases computed : executor.retryDelay tool.spec attempt with
  | error error =>
      have failed : executor.nextDelay tool attempt effects = (.error (.raised error), effects) := by
        rw [nextDelay, computed]
      exact ⟨_, by rw [Action.bind_of_error failed]⟩
  | ok delay =>
      have returned : executor.nextDelay tool attempt effects = (.ok delay, effects) := by
        rw [nextDelay, computed]
      rw [Action.bind_of_ok returned]
      rcases ran : executor.record tool context .toolRetrying attempt
        (executor.durationMs attempt) (errorCode tool inputData context attempt) (some delay)
        effects with ⟨halt | _, effects'⟩
      · exact ⟨halt, by rw [Action.bind_of_error ran]⟩
      · rw [Action.bind_of_ok ran]
        cases ended : executor.sleeper delay with
        | woke => exact absurd ⟨computed, ended⟩ (stuck delay)
        | raised error =>
            have failed : executor.sleep delay effects' =
                (.error (.raised error), effects' ++ [.slept delay]) := by
              rw [sleep, ended]
            exact ⟨_, by rw [Action.bind_of_error failed]⟩
        | never =>
            have failed : executor.sleep delay effects' =
                (.error .asleep, effects' ++ [.slept delay]) := by
              rw [sleep, ended]
            exact ⟨_, by rw [Action.bind_of_error failed]⟩

/-- So many attempts with another one to follow. -/
theorem executeAttempts_rounds (executor : ToolExecutor Seconds Payload Context)
    {tool : Tool Seconds Payload Context} {inputData : Payload} {context : Context}
    {delay : ℕ → Seconds} (count remaining : ℕ) {attempt : ℕ}
    (effects : List (Effect Seconds Context)) (counted : 1 ≤ attempt)
    (chain : ∀ earlier, attempt ≤ earlier → earlier < attempt + count →
      Due tool inputData context earlier ∧ executor.Wakes tool earlier (delay earlier) ∧
        ¬ delay earlier < 0) :
    executor.executeAttempts tool inputData context (remaining + count) attempt effects =
      executor.executeAttempts tool inputData context remaining (attempt + count)
        (effects ++ (List.range' attempt count).flatMap fun earlier =>
          executor.retried tool inputData context earlier (delay earlier)) := by
  induction count generalizing attempt effects with
  | zero => simp
  | succ count ih =>
      obtain ⟨due, wakes, notNegative⟩ := chain attempt le_rfl (by omega)
      rw [← Nat.add_assoc, executeAttempts_of_wakes counted due wakes notNegative,
        ih _ (by omega) fun earlier low high => chain earlier (by omega) (by omega),
        show attempt + (count + 1) = attempt + 1 + count by omega, List.range'_succ,
        List.flatMap_cons, List.append_assoc]

/-- **The loop with delays that end**: so many attempts are followed by another one,
and the one after them returns its response. -/
theorem executeAttempts_returns (executor : ToolExecutor Seconds Payload Context)
    {tool : Tool Seconds Payload Context} {inputData : Payload} {context : Context}
    {delay : ℕ → Seconds} (remaining : ℕ)
    (effects : List (Effect Seconds Context))
    (bounded : ((remaining + 1 : ℕ) : ℤ) = tool.spec.maxAttempts)
    (wakes : ∀ later, 1 ≤ later →
      (∀ earlier, 1 ≤ earlier → earlier ≤ later → Due tool inputData context earlier) →
        executor.Wakes tool later (delay later) ∧ ¬ delay later < 0) :
    ∃ count ≤ remaining,
      (∀ earlier, 1 ≤ earlier → earlier < 1 + count → Due tool inputData context earlier) ∧
      ¬ Due tool inputData context (1 + count) ∧
      executor.executeAttempts tool inputData context (remaining + 1) 1 effects =
        (.ok (response tool inputData context (1 + count)),
          effects ++ (List.range' 1 count).flatMap
              (fun earlier => executor.retried tool inputData context earlier (delay earlier)) ++
            executor.attempted tool inputData context (1 + count)) := by
  classical
  have last : ¬ Due tool inputData context (1 + remaining) := by
    rintro ⟨error, -, retried⟩
    simp only [shouldRetry, Bool.and_eq_true, decide_eq_true_eq] at retried
    omega
  have ends : ∃ count, ¬ Due tool inputData context (1 + count) := ⟨remaining, last⟩
  have chain : ∀ earlier, 1 ≤ earlier → earlier < 1 + Nat.find ends →
      Due tool inputData context earlier := by
    intro earlier low high
    have before : earlier - 1 < Nat.find ends := by omega
    have due := not_not.mp (Nat.find_min ends before)
    rwa [Nat.add_sub_cancel' low] at due
  have few : Nat.find ends ≤ remaining := Nat.find_min' ends last
  refine ⟨Nat.find ends, few, chain, Nat.find_spec ends, ?_⟩
  rw [show remaining + 1 = remaining - Nat.find ends + 1 + Nat.find ends by omega,
    executeAttempts_rounds executor (Nat.find ends) _ effects le_rfl fun earlier low high =>
      ⟨chain earlier low high, wakes earlier low fun between low' high' =>
        chain between low' (by omega)⟩,
    executeAttempts_succ (by omega), settle_of_not_due (Nat.find_spec ends)]

/-- **The loop with a delay that does not end** does not return. -/
theorem executeAttempts_halts (count : ℕ) {remaining attempt : ℕ}
    (effects : List (Effect Seconds Context)) (counted : 1 ≤ attempt)
    (notNegative : ∀ later delay, executor.retryDelay tool.spec later = .ok delay → ¬ delay < 0)
    (chain : ∀ between, attempt ≤ between → between ≤ attempt + count →
      Due tool inputData context between)
    (stuck : ∀ delay, ¬ executor.Wakes tool (attempt + count) delay) :
    ∃ halt, (executor.executeAttempts tool inputData context remaining attempt effects).1 =
      .error halt := by
  induction count generalizing remaining attempt effects with
  | zero =>
      cases remaining with
      | zero => exact ⟨_, rfl⟩
      | succ remaining =>
          rw [executeAttempts_succ counted]
          exact settle_halts (chain attempt le_rfl le_rfl) stuck _ _
  | succ count ih =>
      cases remaining with
      | zero => exact ⟨_, rfl⟩
      | succ remaining =>
          have due := chain attempt le_rfl (by omega)
          by_cases first : ∃ delay, executor.Wakes tool attempt delay
          · obtain ⟨delay, wakes⟩ := first
            rw [executeAttempts_of_wakes counted due wakes (notNegative attempt delay wakes.1)]
            refine ih _ (by omega) (fun between low high => ?_) ?_
            · exact chain between (by omega) (by omega)
            · rwa [show attempt + 1 + count = attempt + (count + 1) by omega]
          · rw [executeAttempts_succ counted]
            exact settle_halts due (fun delay wakes => first ⟨delay, wakes⟩) _ _

end ToolExecutor

end BidSystem.AgentRuntime
