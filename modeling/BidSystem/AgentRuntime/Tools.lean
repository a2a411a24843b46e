import BidSystem.Shared.Strings
import Mathlib.Data.Nat.Notation
import Mathlib.Data.List.TakeWhile
import Mathlib.Data.List.Nodup

/-!
# Tools

What `agent_runtime/tools` knows of a tool, and the events recorded about it.

* `ToolSpec` — the validated limits of a tool.  The type of seconds is left open:
  a `float` compares with `nan`, an exact delay does not.
* `ToolResponse` — exactly one of a value and an error.
* `ToolRegistry` — tools under distinct names.
* `RuntimeEvent.postInit` — what every recorded event has to pass.
-/

namespace BidSystem.AgentRuntime

variable {Seconds Payload Context : Type}

/-! ## Specifications -/

/-- `TOOL_NAME_PATTERN.fullmatch`: a lower-snake-case identifier of at most 64 characters. -/
def isToolName (name : String) : Bool :=
  match name.toList with
  | [] => false
  | first :: rest =>
      first.isLower && rest.length ≤ 63 &&
        rest.all fun character => character.isLower || character.isDigit || character == '_'

/-- `DEFAULT_TOOL_MAX_ATTEMPTS`. -/
def defaultToolMaxAttempts : ℤ := 1

/-- `ToolSpec`, with what `__post_init__` checks. -/
structure ToolSpec (Seconds : Type) [Zero Seconds] [LE Seconds] [LT Seconds] where
  name : String
  timeoutSeconds : Seconds
  maxAttempts : ℤ := defaultToolMaxAttempts
  retryBaseDelaySeconds : Seconds
  retryMaxDelaySeconds : Seconds
  idempotent : Bool := false
  toolName : isToolName name = true
  timeoutPositive : ¬ timeoutSeconds ≤ 0
  maxAttemptsAtLeastOne : 1 ≤ maxAttempts
  baseDelayPositive : ¬ retryBaseDelaySeconds ≤ 0
  maxDelayNotBelowBase : ¬ retryMaxDelaySeconds < retryBaseDelaySeconds

/-- A lower-case letter is not stripped. -/
theorem isSpace_of_isLower {character : Char} (lower : character.isLower = true) :
    isSpace character = false := by
  have bounds : (decide (97 ≤ character.val) && decide (character.val ≤ 122)) = true := lower
  have range : 97 ≤ character.toNat ∧ character.toNat ≤ 122 := by
    simpa [UInt32.le_iff_toNat_le, ← Char.toNat_val] using bounds
  rw [Bool.eq_false_iff]
  intro space
  simp only [isSpace, Bool.or_eq_true, Bool.and_eq_true, decide_eq_true_eq, beq_iff_eq] at space
  omega

/-- A tool name is not blank. -/
theorem not_blank_of_isToolName {name : String} (identifier : isToolName name = true) :
    blank name = false := by
  rw [Bool.eq_false_iff]
  intro empty
  have spaces := blank_iff.1 empty
  unfold isToolName at identifier
  cases characters : name.toList with
  | nil =>
      rw [characters] at identifier
      cases identifier
  | cons first rest =>
      rw [characters] at identifier spaces
      have lower : first.isLower = true := by
        simp only [Bool.and_eq_true] at identifier
        exact identifier.1.1
      have space := spaces first List.mem_cons_self
      rw [isSpace_of_isLower lower] at space
      cases space

/-! ## Responses -/

/-- `ToolErrorCode`. -/
inductive ToolErrorCode where
  | invalidInput
  | permissionDenied
  | notFound
  | conflict
  | timeout
  | unavailable
  | executionFailed
deriving DecidableEq, Repr

/-- `ToolError`, with what `__post_init__` checks. -/
structure ToolError where
  code : ToolErrorCode
  message : String
  retryable : Bool := false
  messageNotBlank : blank message = false
deriving DecidableEq

/-- `ToolResponse`: exactly one of a value and an error. -/
structure ToolResponse (Payload : Type) where
  value : Option Payload
  error : Option ToolError
  exactlyOne : value.isNone ≠ error.isNone

namespace ToolResponse

/-- `ToolResponse.success`. -/
def success (value : Payload) : ToolResponse Payload := ⟨some value, none, by simp⟩

/-- `ToolResponse.failure`. -/
def failure (error : ToolError) : ToolResponse Payload := ⟨none, some error, by simp⟩

/-- `is_success`. -/
def isSuccess (response : ToolResponse Payload) : Bool := response.error.isNone

/-- A response without an error has a value. -/
theorem value_of_isSuccess {response : ToolResponse Payload}
    (succeeded : response.isSuccess = true) : response.value.isSome = true := by
  have one := response.exactlyOne
  rw [isSuccess] at succeeded
  rw [succeeded] at one
  cases given : response.value with
  | none => exact absurd (by rw [given]; rfl) one
  | some value => rfl

end ToolResponse

/-! ## Tools and their registry -/

/-- What an attempt to invoke a tool comes to: it returns, its time is up or it raises. -/
inductive Invocation (Payload : Type) where
  | returned (response : ToolResponse Payload)
  | timeoutError
  | exception

/-- `Tool`.  An invocation may depend on the attempts before it. -/
structure Tool (Seconds Payload Context : Type) [Zero Seconds] [LE Seconds] [LT Seconds] where
  spec : ToolSpec Seconds
  inputSchema : Payload → Bool
  outputSchema : Payload → Bool
  invoke : Payload → Context → (attempt : ℕ) → Invocation Payload

variable [Zero Seconds] [LE Seconds] [LT Seconds]

/-- `ToolRegistry`: tools under distinct names. -/
structure ToolRegistry (Seconds Payload Context : Type) [Zero Seconds] [LE Seconds] [LT Seconds]
    where
  tools : List (Tool Seconds Payload Context)
  distinct : (tools.map fun tool => tool.spec.name).Nodup

namespace ToolRegistry

variable (registry : ToolRegistry Seconds Payload Context)

/-- `ToolRegistry()`. -/
def empty : ToolRegistry Seconds Payload Context := ⟨[], List.nodup_nil⟩

/-- `register`; a taken name raises `DuplicateToolError`. -/
def register (tool : Tool Seconds Payload Context) : Option (ToolRegistry Seconds Payload Context) :=
  if taken : tool.spec.name ∈ registry.tools.map fun tool => tool.spec.name then none
  else some ⟨tool :: registry.tools, List.nodup_cons.mpr ⟨taken, registry.distinct⟩⟩

/-- `get`; an unknown name raises `UnknownToolError`. -/
def get (name : String) : Option (Tool Seconds Payload Context) :=
  registry.tools.find? fun tool => tool.spec.name == name

/-- A tool is found under its name. -/
theorem get_name {name : String} {tool : Tool Seconds Payload Context}
    (found : registry.get name = some tool) : tool.spec.name = name :=
  eq_of_beq (List.find?_some
    (p := fun other : Tool Seconds Payload Context => other.spec.name == name) found)

/-- **Registration adds one tool** and keeps every other one. -/
theorem get_register {tool : Tool Seconds Payload Context}
    {registered : ToolRegistry Seconds Payload Context}
    (accepted : registry.register tool = some registered) (name : String) :
    registered.get name = if tool.spec.name = name then some tool else registry.get name := by
  unfold register at accepted
  split_ifs at accepted
  cases accepted
  by_cases same : tool.spec.name = name
  · simp [get, same]
  · simp [get, same]

end ToolRegistry

/-! ## Events -/

/-- `RuntimeEventType`. -/
inductive RuntimeEventType where
  | toolStarted
  | toolSucceeded
  | toolRetrying
  | toolFailed
  | toolTimedOut
deriving DecidableEq, Repr

/-- `RuntimeEvent`.  An `Instant` is aware of its timezone. -/
structure RuntimeEvent (Seconds Context : Type) where
  eventType : RuntimeEventType
  occurredAt : Instant
  context : Context
  toolName : String
  attempt : ℕ
  durationMs : Seconds
  errorCode : Option ToolErrorCode := none
  retryDelaySeconds : Option Seconds := none

/-- `RuntimeEvent.__post_init__`. -/
def RuntimeEvent.postInit [DecidableLT Seconds] (event : RuntimeEvent Seconds Context) :
    Except PyError Unit :=
  if blank event.toolName then .error (.valueError "tool_name must not be blank")
  else if event.attempt < 1 then .error (.valueError "attempt must be at least one")
  else if event.durationMs < 0 then .error (.valueError "duration_ms must not be negative")
  else if event.retryDelaySeconds.any fun delay => delay < 0 then
    .error (.valueError "retry_delay_seconds must not be negative")
  else .ok ()

omit [LE Seconds] in
/-- An event that passes its checks. -/
theorem RuntimeEvent.postInit_eq_ok [DecidableLT Seconds] {event : RuntimeEvent Seconds Context}
    (named : blank event.toolName = false) (counted : 1 ≤ event.attempt)
    (measured : ¬ event.durationMs < 0)
    (delayed : ∀ delay ∈ event.retryDelaySeconds, ¬ delay < 0) : event.postInit = .ok () := by
  have noDelay : (event.retryDelaySeconds.any fun delay => delay < 0) = false := by
    cases given : event.retryDelaySeconds with
    | none => rfl
    | some delay => simpa using delayed delay given
  simp [RuntimeEvent.postInit, named, measured, noDelay, Nat.not_lt.mpr counted]

end BidSystem.AgentRuntime
