import BidSystem.Shared.Float
import Mathlib.Algebra.Order.BigOperators.Group.List

/-!
# Measurements and the instruments they move

`platform/telemetry/metrics.py`: measurements that were checked when they were built, and
the calls that `TelemetryMetrics` makes on its instruments for each of them.

* `Measurement.updates` — the calls for one measurement.
* `amounts` — what an instrument was given under some attributes, in order.
* `counters_monotone` — no sequence of measurements lowers a counter.
* `sum_httpCounters` — what the counters of requests come to.

A `Decimal` is a rational number; its conversion to `float` and `str.upper` are taken as
given.
-/

namespace BidSystem.Telemetry

/-! ## Checks -/

/-- `SUPPORTED_OUTCOMES`. -/
def supportedOutcomes : List String := ["success", "error", "cancelled", "retry"]

/-- `_require_non_empty`. -/
def requireNonEmpty (fieldName value : String) : Except PyError Unit :=
  if blank value then .error (.valueError (fieldName ++ " must not be empty")) else .ok ()

/-- `_require_non_negative`. -/
def requireNonNegative {α : Type} [Zero α] [LT α] [DecidableLT α] (fieldName : String)
    (value : α) : Except PyError Unit :=
  if value < 0 then .error (.valueError (fieldName ++ " must be non-negative")) else .ok ()

/-- `_validate_outcome`. -/
def validateOutcome (value : String) : Except PyError Unit :=
  if value ∉ supportedOutcomes then .error (.valueError "outcome is unsupported") else .ok ()

/-! ## Measurements -/

/-- The fields of `HttpRequestMeasurement`. -/
structure HttpRequestFields where
  method : String
  route : String
  statusCode : ℤ
  durationMs : PyFloat
deriving DecidableEq

/-- `HttpRequestMeasurement.__post_init__`. -/
def HttpRequestFields.check (fields : HttpRequestFields) : Except PyError Unit := do
  requireNonEmpty "method" fields.method
  requireNonEmpty "route" fields.route
  if ¬(100 ≤ fields.statusCode ∧ fields.statusCode ≤ 599) then
    .error (.valueError "status_code is outside the HTTP range")
  requireNonNegative "duration_ms" fields.durationMs

/-- `HttpRequestMeasurement`. -/
structure HttpRequestMeasurement extends HttpRequestFields where
  checked : toHttpRequestFields.check = .ok ()
deriving DecidableEq

/-- The fields of `DatabasePoolMeasurement`. -/
structure DatabasePoolFields where
  poolName : String
  size : ℤ
  checkedOut : ℤ
  overflow : ℤ
deriving DecidableEq

/-- `DatabasePoolMeasurement.__post_init__`. -/
def DatabasePoolFields.check (fields : DatabasePoolFields) : Except PyError Unit := do
  requireNonEmpty "pool_name" fields.poolName
  requireNonNegative "size" fields.size
  requireNonNegative "checked_out" fields.checkedOut
  if fields.overflow < -fields.size then
    .error (.valueError "overflow is below the valid pool range")

/-- `DatabasePoolMeasurement`. -/
structure DatabasePoolMeasurement extends DatabasePoolFields where
  checked : toDatabasePoolFields.check = .ok ()
deriving DecidableEq

/-- The fields of `ExternalCallMeasurement`. -/
structure ExternalCallFields where
  provider : String
  operation : String
  outcome : String
  durationMs : PyFloat
deriving DecidableEq

/-- `ExternalCallMeasurement.__post_init__`. -/
def ExternalCallFields.check (fields : ExternalCallFields) : Except PyError Unit := do
  requireNonEmpty "provider" fields.provider
  requireNonEmpty "operation" fields.operation
  validateOutcome fields.outcome
  requireNonNegative "duration_ms" fields.durationMs

/-- `ExternalCallMeasurement`. -/
structure ExternalCallMeasurement extends ExternalCallFields where
  checked : toExternalCallFields.check = .ok ()
deriving DecidableEq

/-- The fields of `WorkerTaskMeasurement`. -/
structure WorkerTaskFields where
  taskName : String
  queueName : String
  outcome : String
  durationMs : PyFloat
  retryCount : ℤ
deriving DecidableEq

/-- `WorkerTaskMeasurement.__post_init__`. -/
def WorkerTaskFields.check (fields : WorkerTaskFields) : Except PyError Unit := do
  requireNonEmpty "task_name" fields.taskName
  requireNonEmpty "queue_name" fields.queueName
  validateOutcome fields.outcome
  requireNonNegative "duration_ms" fields.durationMs
  requireNonNegative "retry_count" fields.retryCount

/-- `WorkerTaskMeasurement`. -/
structure WorkerTaskMeasurement extends WorkerTaskFields where
  checked : toWorkerTaskFields.check = .ok ()
deriving DecidableEq

/-- The fields of `QueueBacklogMeasurement`. -/
structure QueueBacklogFields where
  queueName : String
  size : ℤ
deriving DecidableEq

/-- `QueueBacklogMeasurement.__post_init__`. -/
def QueueBacklogFields.check (fields : QueueBacklogFields) : Except PyError Unit := do
  requireNonEmpty "queue_name" fields.queueName
  requireNonNegative "size" fields.size

/-- `QueueBacklogMeasurement`. -/
structure QueueBacklogMeasurement extends QueueBacklogFields where
  checked : toQueueBacklogFields.check = .ok ()
deriving DecidableEq

/-- The fields of `LlmUsageMeasurement`. -/
structure LlmUsageFields where
  provider : String
  model : String
  outcome : String
  inputTokens : ℤ
  outputTokens : ℤ
  cost : Option ℚ
  currency : Option String
deriving DecidableEq

/-- `LlmUsageMeasurement.__post_init__`. -/
def LlmUsageFields.check (fields : LlmUsageFields) : Except PyError Unit := do
  requireNonEmpty "provider" fields.provider
  requireNonEmpty "model" fields.model
  validateOutcome fields.outcome
  requireNonNegative "input_tokens" fields.inputTokens
  requireNonNegative "output_tokens" fields.outputTokens
  match fields.cost with
  | none => .ok ()
  | some cost => do
      requireNonNegative "cost" cost
      if fields.currency.all blank then
        .error (.valueError "currency is required when cost is known")

/-- `LlmUsageMeasurement`. -/
structure LlmUsageMeasurement extends LlmUsageFields where
  checked : toLlmUsageFields.check = .ok ()
deriving DecidableEq

/-- What a `MetricsSink` is given. -/
inductive Measurement where
  | httpRequest (measurement : HttpRequestMeasurement)
  | databasePool (measurement : DatabasePoolMeasurement)
  | externalCall (measurement : ExternalCallMeasurement)
  | workerTask (measurement : WorkerTaskMeasurement)
  | queueBacklog (measurement : QueueBacklogMeasurement)
  | llmUsage (measurement : LlmUsageMeasurement)
deriving DecidableEq

/-! ## Instruments -/

/-- The instruments of `TelemetryMetrics`. -/
inductive Instrument where
  | httpRequests
  | httpDuration
  | httpErrors
  | databasePoolSize
  | databasePoolCheckedOut
  | databasePoolOverflow
  | externalRequests
  | externalDuration
  | workerTasks
  | workerDuration
  | workerRetries
  | queueBacklog
  | llmRequests
  | llmInputTokens
  | llmOutputTokens
  | llmCost
deriving DecidableEq, Repr

/-- `create_counter` made it. -/
def Instrument.isCounter : Instrument → Bool
  | httpRequests | httpErrors | externalRequests | workerTasks | workerRetries | llmRequests
  | llmInputTokens | llmOutputTokens | llmCost => true
  | _ => false

/-- What an instrument is given: an `int` or a `float`. -/
inductive Amount where
  | int (value : ℤ)
  | float (value : PyFloat)
deriving DecidableEq

/-- The value of an attribute. -/
inductive AttributeValue where
  | text (value : String)
  | number (value : ℤ)
deriving DecidableEq

/-- The attributes of a call. -/
abbrev Attributes := List (String × AttributeValue)

/-- A call of `add`, `record` or `set`. -/
structure Update where
  instrument : Instrument
  amount : Amount
  attributes : Attributes
deriving DecidableEq

/-- What the recorder takes from the language. -/
structure Conversions where
  toFloat : ℚ → PyFloat
  upper : String → String
  /-- A `Decimal` that is not negative becomes a `float` that is not. -/
  toFloat_nonneg : ∀ value, 0 ≤ value → ¬toFloat value < 0

/-- The attributes of `record_http_request`. -/
def httpAttributes (method route : String) (statusCode : ℤ) : Attributes :=
  [("http.request.method", .text method), ("http.route", .text route),
    ("http.response.status_code", .number statusCode)]

/-- The attributes of `observe_database_pool`. -/
def poolAttributes (poolName : String) : Attributes := [("db.pool.name", .text poolName)]

/-- The attributes of `record_external_call`. -/
def externalAttributes (provider operation outcome : String) : Attributes :=
  [("server.address", .text provider), ("operation.name", .text operation),
    ("outcome", .text outcome)]

/-- The attributes of `record_worker_task`. -/
def workerAttributes (taskName queueName outcome : String) : Attributes :=
  [("task.name", .text taskName), ("messaging.destination.name", .text queueName),
    ("outcome", .text outcome)]

/-- The attributes of `observe_queue_backlog`. -/
def queueAttributes (queueName : String) : Attributes :=
  [("messaging.destination.name", .text queueName)]

/-- The attributes of `record_llm_usage`. -/
def llmAttributes (provider model outcome : String) : Attributes :=
  [("gen_ai.provider.name", .text provider), ("gen_ai.request.model", .text model),
    ("outcome", .text outcome)]

/-- `record_http_request`. -/
def recordHttpRequest (measurement : HttpRequestMeasurement) : List Update :=
  let attributes := httpAttributes measurement.method measurement.route measurement.statusCode
  [⟨.httpRequests, .int 1, attributes⟩, ⟨.httpDuration, .float measurement.durationMs, attributes⟩] ++
    if 400 ≤ measurement.statusCode then [⟨.httpErrors, .int 1, attributes⟩] else []

/-- `observe_database_pool`. -/
def observeDatabasePool (measurement : DatabasePoolMeasurement) : List Update :=
  let attributes := poolAttributes measurement.poolName
  [⟨.databasePoolSize, .int measurement.size, attributes⟩,
    ⟨.databasePoolCheckedOut, .int measurement.checkedOut, attributes⟩,
    ⟨.databasePoolOverflow, .int measurement.overflow, attributes⟩]

/-- `record_external_call`. -/
def recordExternalCall (measurement : ExternalCallMeasurement) : List Update :=
  let attributes := externalAttributes measurement.provider measurement.operation
    measurement.outcome
  [⟨.externalRequests, .int 1, attributes⟩,
    ⟨.externalDuration, .float measurement.durationMs, attributes⟩]

/-- `record_worker_task`. -/
def recordWorkerTask (measurement : WorkerTaskMeasurement) : List Update :=
  let attributes := workerAttributes measurement.taskName measurement.queueName
    measurement.outcome
  [⟨.workerTasks, .int 1, attributes⟩, ⟨.workerDuration, .float measurement.durationMs, attributes⟩] ++
    if measurement.retryCount ≠ 0 then
      [⟨.workerRetries, .int measurement.retryCount, attributes⟩]
    else []

/-- `observe_queue_backlog`. -/
def observeQueueBacklog (measurement : QueueBacklogMeasurement) : List Update :=
  [⟨.queueBacklog, .int measurement.size, queueAttributes measurement.queueName⟩]

/-- `record_llm_usage`. -/
def recordLlmUsage (conversions : Conversions) (measurement : LlmUsageMeasurement) :
    List Update :=
  let attributes := llmAttributes measurement.provider measurement.model measurement.outcome
  [⟨.llmRequests, .int 1, attributes⟩, ⟨.llmInputTokens, .int measurement.inputTokens, attributes⟩,
    ⟨.llmOutputTokens, .int measurement.outputTokens, attributes⟩] ++
    match measurement.cost, measurement.currency with
    | some cost, some currency =>
        [⟨.llmCost, .float (conversions.toFloat cost),
          attributes ++ [("currency", .text (conversions.upper currency))]⟩]
    | _, _ => []

/-- The calls of `TelemetryMetrics` for one measurement. -/
def Measurement.updates (conversions : Conversions) : Measurement → List Update
  | httpRequest measurement => recordHttpRequest measurement
  | databasePool measurement => observeDatabasePool measurement
  | externalCall measurement => recordExternalCall measurement
  | workerTask measurement => recordWorkerTask measurement
  | queueBacklog measurement => observeQueueBacklog measurement
  | llmUsage measurement => recordLlmUsage conversions measurement

/-- The calls of `TelemetryMetrics` for a sequence of measurements. -/
def updates (conversions : Conversions) (measurements : List Measurement) : List Update :=
  measurements.flatMap (Measurement.updates conversions)

/-! ## What the checks say -/

@[simp] theorem requireNonEmpty_ok {fieldName value : String} :
    requireNonEmpty fieldName value = .ok () ↔ blank value = false := by
  rw [requireNonEmpty]
  split
  · next isBlank => simp [isBlank]
  · next filled => simpa using filled

@[simp] theorem requireNonNegative_ok {α : Type} [Zero α] [LT α] [DecidableLT α]
    {fieldName : String} {value : α} :
    requireNonNegative fieldName value = .ok () ↔ ¬value < 0 := by
  rw [requireNonNegative]
  split
  · next negative => simp [negative]
  · next other => simp [other]

/-- A check passes if each of its parts does. -/
theorem check_bind {first : Except PyError Unit} {second : Unit → Except PyError Unit} :
    (first >>= second) = .ok () ↔ first = .ok () ∧ second () = .ok () := by
  cases first with
  | error error => exact ⟨nofun, fun both => nomatch both.1⟩
  | ok _ => exact ⟨fun checked => ⟨rfl, checked⟩, And.right⟩

/-- A request is measured unless its method or route is blank, its status is none of HTTP or
its duration is negative. -/
theorem HttpRequestFields.check_iff {fields : HttpRequestFields} :
    fields.check = .ok () ↔ blank fields.method = false ∧ blank fields.route = false ∧
      (100 ≤ fields.statusCode ∧ fields.statusCode ≤ 599) ∧ ¬fields.durationMs < 0 := by
  rw [check, check_bind, check_bind, requireNonEmpty_ok, requireNonEmpty_ok]
  refine and_congr_right fun _ => and_congr_right fun _ => ?_
  by_cases range : 100 ≤ fields.statusCode ∧ fields.statusCode ≤ 599
  · rw [if_neg (not_not_intro range)]
    simp [range]
  · rw [if_pos range]
    simp [range, check_bind]

theorem WorkerTaskFields.retryCount_nonneg {fields : WorkerTaskFields}
    (checked : fields.check = .ok ()) : 0 ≤ fields.retryCount :=
  Int.not_lt.mp (requireNonNegative_ok.mp
    (check_bind.mp (check_bind.mp (check_bind.mp (check_bind.mp checked).2).2).2).2)

theorem LlmUsageFields.tokens_nonneg {fields : LlmUsageFields} (checked : fields.check = .ok ()) :
    0 ≤ fields.inputTokens ∧ 0 ≤ fields.outputTokens := by
  have counted := (check_bind.mp (check_bind.mp (check_bind.mp checked).2).2).2
  exact ⟨Int.not_lt.mp (requireNonNegative_ok.mp (check_bind.mp counted).1),
    Int.not_lt.mp (requireNonNegative_ok.mp (check_bind.mp (check_bind.mp counted).2).1)⟩

theorem LlmUsageFields.cost_nonneg {fields : LlmUsageFields} {cost : ℚ}
    (checked : fields.check = .ok ()) (known : fields.cost = some cost) : 0 ≤ cost := by
  have counted := (check_bind.mp (check_bind.mp (check_bind.mp checked).2).2).2
  have priced := (check_bind.mp (check_bind.mp counted).2).2
  rw [known] at priced
  exact not_lt.mp (requireNonNegative_ok.mp (check_bind.mp priced).1)

/-! ## What the instruments were given -/

/-- An amount that does not lower a counter. -/
def Amount.Nonneg : Amount → Prop
  | int value => 0 ≤ value
  | float value => ¬value < 0

/-- **No measurement lowers a counter.** -/
theorem Measurement.nonneg (conversions : Conversions) (measurement : Measurement)
    {update : Update} (member : update ∈ measurement.updates conversions)
    (counter : update.instrument.isCounter = true) : update.amount.Nonneg := by
  have one : (Amount.int 1).Nonneg := Int.one_nonneg
  cases measurement with
  | httpRequest measurement =>
      rw [updates, recordHttpRequest] at member
      rcases List.mem_append.mp member with always | failed
      · rcases List.mem_pair.mp always with rfl | rfl
        · exact one
        · cases counter
      · split at failed
        · rw [List.mem_singleton.mp failed]
          exact one
        · cases failed
  | databasePool measurement =>
      rw [updates, observeDatabasePool] at member
      simp only [List.mem_cons, List.not_mem_nil, or_false] at member
      rcases member with rfl | rfl | rfl <;> cases counter
  | externalCall measurement =>
      rw [updates, recordExternalCall] at member
      rcases List.mem_pair.mp member with rfl | rfl
      · exact one
      · cases counter
  | workerTask measurement =>
      rw [updates, recordWorkerTask] at member
      rcases List.mem_append.mp member with always | retried
      · rcases List.mem_pair.mp always with rfl | rfl
        · exact one
        · cases counter
      · split at retried
        · rw [List.mem_singleton.mp retried]
          exact WorkerTaskFields.retryCount_nonneg measurement.checked
        · cases retried
  | queueBacklog measurement =>
      rw [updates, observeQueueBacklog] at member
      rw [List.mem_singleton.mp member] at counter
      cases counter
  | llmUsage measurement =>
      obtain ⟨input, output⟩ := LlmUsageFields.tokens_nonneg measurement.checked
      rw [updates, recordLlmUsage] at member
      rcases List.mem_append.mp member with always | priced
      · simp only [List.mem_cons, List.not_mem_nil, or_false] at always
        rcases always with rfl | rfl | rfl
        · exact one
        · exact input
        · exact output
      · split at priced
        · next cost currency known _ =>
            rw [List.mem_singleton.mp priced]
            exact conversions.toFloat_nonneg cost
              (LlmUsageFields.cost_nonneg measurement.checked known)
        · cases priced

/-- The whole numbers that an instrument was given under some attributes. -/
def amounts (instrument : Instrument) (attributes : Attributes) (updates : List Update) :
    List ℤ :=
  updates.filterMap fun update =>
    if update.instrument = instrument ∧ update.attributes = attributes then
      match update.amount with
      | .int value => some value
      | .float _ => none
    else none

@[simp] theorem amounts_append (instrument : Instrument) (attributes : Attributes)
    (first second : List Update) :
    amounts instrument attributes (first ++ second) =
      amounts instrument attributes first ++ amounts instrument attributes second :=
  List.filterMap_append

theorem mem_amounts {instrument : Instrument} {attributes : Attributes} {updates : List Update}
    {value : ℤ} (member : value ∈ amounts instrument attributes updates) :
    ⟨instrument, .int value, attributes⟩ ∈ updates := by
  obtain ⟨⟨given, amount, under⟩, among, kept⟩ := List.mem_filterMap.mp member
  split at kept
  · next same =>
      obtain ⟨rfl, rfl⟩ := same
      cases amount with
      | int whole =>
          cases kept
          exact among
      | float _ => cases kept
  · cases kept

/-- A call of a model, with an exact conversion of costs. -/
def tokenUsage (tokens : ℕ) : LlmUsageMeasurement where
  provider := "openai"
  model := "gpt"
  outcome := "success"
  inputTokens := tokens
  outputTokens := 0
  cost := none
  currency := none
  checked := by
    have positive : ¬(tokens : ℤ) < 0 := Int.not_lt.mpr (Int.natCast_nonneg tokens)
    simp [LlmUsageFields.check, requireNonNegative, positive]
    rfl

/-- A conversion that rounds nothing. -/
def Conversions.exact : Conversions where
  toFloat := .real
  upper := id
  toFloat_nonneg := fun _ nonneg => by
    rw [PyFloat.zero_eq, PyFloat.real_lt_real]
    exact not_lt.mpr nonneg

/-- A request with some method, route and status. -/
def Measurement.isRequest (method route : String) (statusCode : ℤ) : Measurement → Bool
  | httpRequest measurement =>
      measurement.method = method ∧ measurement.route = route ∧ measurement.statusCode = statusCode
  | _ => false

theorem httpAttributes_inj {method method' route route' : String} {statusCode statusCode' : ℤ} :
    httpAttributes method route statusCode = httpAttributes method' route' statusCode' ↔
      method = method' ∧ route = route' ∧ statusCode = statusCode' := by
  simp [httpAttributes]

/-- An instrument of another kind is given nothing. -/
theorem amounts_eq_nil {instrument : Instrument} {updates : List Update}
    (elsewhere : ∀ update ∈ updates, update.instrument ≠ instrument) (attributes : Attributes) :
    amounts instrument attributes updates = [] := by
  rw [amounts, List.filterMap_eq_nil_iff]
  intro update member
  rw [if_neg fun same => elsewhere update member same.1]

/-- Only requests move the counters of requests. -/
theorem Measurement.of_httpCounter {conversions : Conversions} {measurement : Measurement}
    {update : Update} (member : update ∈ measurement.updates conversions)
    (counter : update.instrument = .httpRequests ∨ update.instrument = .httpErrors) :
    ∃ request, measurement = .httpRequest request := by
  cases measurement with
  | httpRequest request => exact ⟨request, rfl⟩
  | databasePool _ =>
      simp only [updates, observeDatabasePool, List.mem_cons, List.not_mem_nil, or_false] at member
      rcases member with rfl | rfl | rfl <;> rcases counter with same | same <;> cases same
  | externalCall _ =>
      simp only [updates, recordExternalCall, List.mem_cons, List.not_mem_nil, or_false] at member
      rcases member with rfl | rfl <;> rcases counter with same | same <;> cases same
  | workerTask _ =>
      simp only [updates, recordWorkerTask, List.mem_append, List.mem_cons, List.not_mem_nil,
        or_false] at member
      rcases member with (rfl | rfl) | retried
      · rcases counter with same | same <;> cases same
      · rcases counter with same | same <;> cases same
      · split at retried
        · rw [List.mem_singleton.mp retried] at counter
          rcases counter with same | same <;> cases same
        · cases retried
  | queueBacklog _ =>
      rw [updates, observeQueueBacklog, List.mem_singleton] at member
      rw [member] at counter
      rcases counter with same | same <;> cases same
  | llmUsage _ =>
      simp only [updates, recordLlmUsage, List.mem_append, List.mem_cons, List.not_mem_nil,
        or_false] at member
      rcases member with (rfl | rfl | rfl) | priced
      · rcases counter with same | same <;> cases same
      · rcases counter with same | same <;> cases same
      · rcases counter with same | same <;> cases same
      · split at priced
        · rw [List.mem_singleton.mp priced] at counter
          rcases counter with same | same <;> cases same
        · cases priced

/-- What one measurement adds to the counters of requests. -/
theorem Measurement.sum_httpCounters (conversions : Conversions) (measurement : Measurement)
    (method route : String) (statusCode : ℤ) :
    let attributes := httpAttributes method route statusCode
    let counted : ℤ := if measurement.isRequest method route statusCode then 1 else 0
    (amounts .httpRequests attributes (measurement.updates conversions)).sum = counted ∧
      (amounts .httpErrors attributes (measurement.updates conversions)).sum =
        if 400 ≤ statusCode then counted else 0 := by
  intro attributes counted
  by_cases isHttp : ∃ request, measurement = .httpRequest request
  · obtain ⟨request, rfl⟩ := isHttp
    by_cases same : request.method = method ∧ request.route = route ∧
        request.statusCode = statusCode
    · obtain ⟨rfl, rfl, rfl⟩ := same
      by_cases failed : 400 ≤ request.statusCode
      · simp [attributes, counted, updates, recordHttpRequest, amounts, isRequest, failed]
      · simp [attributes, counted, updates, recordHttpRequest, amounts, isRequest, failed]
    · have different : ¬httpAttributes request.method request.route request.statusCode =
          attributes := fun equal => same (httpAttributes_inj.mp equal)
      by_cases failed : 400 ≤ request.statusCode
      · simp [counted, updates, recordHttpRequest, amounts, isRequest, failed, different, same]
      · simp [counted, updates, recordHttpRequest, amounts, isRequest, failed, different, same]
  · have nothing : ∀ instrument, instrument = .httpRequests ∨ instrument = .httpErrors →
        amounts instrument attributes (measurement.updates conversions) = [] := by
      rintro instrument counter
      refine amounts_eq_nil (fun update member same => isHttp ?_) attributes
      exact of_httpCounter member (by rwa [same])
    have none : counted = 0 := by
      cases measurement with
      | httpRequest request => exact absurd ⟨request, rfl⟩ isHttp
      | _ => rfl
    rw [nothing _ (.inl rfl), nothing _ (.inr rfl), none]
    simp

/-- **The counters of requests count the requests** with the method, route and status of
their attributes, and the counter of errors those of them that failed. -/
theorem sum_httpCounters (conversions : Conversions) (measurements : List Measurement)
    (method route : String) (statusCode : ℤ) :
    let attributes := httpAttributes method route statusCode
    let counted : ℤ := measurements.countP (Measurement.isRequest method route statusCode)
    (amounts .httpRequests attributes (updates conversions measurements)).sum = counted ∧
      (amounts .httpErrors attributes (updates conversions measurements)).sum =
        if 400 ≤ statusCode then counted else 0 := by
  induction measurements with
  | nil => simp [updates, amounts]
  | cons measurement measurements ih =>
      obtain ⟨requests, errors⟩ := measurement.sum_httpCounters conversions method route statusCode
      intro attributes counted
      have split : counted = (measurements.countP (Measurement.isRequest method route statusCode) : ℤ) +
          if measurement.isRequest method route statusCode then 1 else 0 := by
        simp only [counted, List.countP_cons]
        split <;> simp
      rw [updates, List.flatMap_cons, ← updates, amounts_append, amounts_append, List.sum_append,
        List.sum_append, requests, errors, ih.1, ih.2, split]
      constructor
      · exact Int.add_comm _ _
      · by_cases failed : 400 ≤ statusCode
        · rw [if_pos failed, if_pos failed, if_pos failed]
          exact Int.add_comm _ _
        · rw [if_neg failed, if_neg failed, if_neg failed]
          rfl

end BidSystem.Telemetry
