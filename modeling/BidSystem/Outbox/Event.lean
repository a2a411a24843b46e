import BidSystem.Shared.Datetime
import BidSystem.Telemetry.Redaction
import Mathlib.Algebra.Field.Rat
import Mathlib.Algebra.Order.Ring.Rat

/-!
# Outbox events

The event envelope of `platform/database/outbox.py` with the operations on one
row: `OutboxEventModel.create`, what `claim_batch` does to a row it returns,
`mark_published` and `apply_failure`.

The last two check the status and the token first, and raise `ValueError`
without having written anything.  `apply_failure` computes the time of the next
attempt after it has released the claim: if that time cannot be represented it
raises with the row half written.

* `OutboxEvent.Sound` — how status, claim, publication and error of an event go
  together.  All operations keep it, unless a retry cannot be represented.
* `OutboxEvent.claimed_iff_eligible` and the `…_iff` theorems of the other two
  operations say when they do anything.
-/

namespace BidSystem.Outbox

open Telemetry

/-- `JsonValue`, as a row stores it. -/
inductive JsonValue where
  | string (value : String)
  | int (value : ℤ)
  | float (value : ℚ)
  | bool (value : Bool)
  | null
  | list (items : List JsonValue)
  | object (members : List (String × JsonValue))

/-- `MAX_EVENT_TYPE_LENGTH`. -/
def maxEventTypeLength : ℕ := 200

/-- `MAX_AGGREGATE_TYPE_LENGTH`. -/
def maxAggregateTypeLength : ℕ := 100

/-- `MAX_AGGREGATE_ID_LENGTH`. -/
def maxAggregateIdLength : ℕ := 200

/-- `MAX_ERROR_LENGTH`. -/
def maxErrorLength : ℕ := 2000

/-- `OutboxStatus`. -/
inductive OutboxStatus where
  | pending
  | processing
  | published
  | deadLetter
deriving DecidableEq, Repr

/-- `RetryPolicy`, with what `__post_init__` checks. -/
structure RetryPolicy where
  maxAttempts : ℤ
  baseDelaySeconds : ℚ
  maxDelaySeconds : ℚ
  maxAttemptsAtLeastOne : 1 ≤ maxAttempts
  baseDelayPositive : 0 < baseDelaySeconds
  maxDelayNotBelowBase : baseDelaySeconds ≤ maxDelaySeconds

/-- A stored outbox event. -/
structure OutboxEvent where
  eventId : String
  eventType : String
  aggregateType : String
  aggregateId : String
  aggregateVersion : Option ℤ
  payload : List (String × JsonValue)
  eventMetadata : List (String × JsonValue)
  status : OutboxStatus
  attemptCount : ℕ
  availableAt : Instant
  claimedAt : Option Instant
  claimedUntil : Option Instant
  claimToken : Option String
  publishedAt : Option Instant
  lastError : Option String
  createdAt : Instant

/-- The arguments of `OutboxEventModel.create`. -/
structure NewEvent where
  eventType : String
  aggregateType : String
  aggregateId : String
  aggregateVersion : Option ℤ
  payload : List (String × JsonValue)
  eventMetadata : List (String × JsonValue)
  occurredAt : Option Instant
  eventId : Option String

/-- `_validate_required_text`. -/
def validateRequiredText (name value : String) (maxLength : ℕ) : Except PyError Unit :=
  if blank value then .error (.valueError (name ++ " must not be blank"))
  else if maxLength < value.length then
    .error (.valueError (name ++ " exceeds maximum length " ++ toString maxLength))
  else .ok ()

/-- What `2 ** n` becomes when it is multiplied with a `float`. -/
def floatPower (exponent : ℤ) : Except PyError ℚ :=
  if 1024 ≤ exponent then .error .overflowError else .ok (2 ^ exponent)

/-- `timedelta(seconds=seconds)`. -/
def timedeltaSeconds (seconds : ℚ) : Except PyError Duration :=
  let duration := roundHalfEven (seconds.num * second) seconds.den
  if -999999999 * 86400 * second ≤ duration ∧ duration < 1000000000 * 86400 * second then .ok duration
  else .error .overflowError

namespace OutboxEvent

/-- `OutboxEventModel.create`, at a time `now` and with `uuid4` as the default of `event_id`. -/
def create (now : Instant) (uuid4 : String) (arguments : NewEvent) : Except PyError OutboxEvent := do
  let createdAt := arguments.occurredAt.getD now
  validateRequiredText "event_type" arguments.eventType maxEventTypeLength
  validateRequiredText "aggregate_type" arguments.aggregateType maxAggregateTypeLength
  validateRequiredText "aggregate_id" arguments.aggregateId maxAggregateIdLength
  if arguments.aggregateVersion.any fun version => version < 0 then
    .error (.valueError "aggregate_version must not be negative")
  else
    .ok {
      eventId := arguments.eventId.getD uuid4
      eventType := arguments.eventType
      aggregateType := arguments.aggregateType
      aggregateId := arguments.aggregateId
      aggregateVersion := arguments.aggregateVersion
      payload := arguments.payload
      eventMetadata := arguments.eventMetadata
      status := .pending
      attemptCount := 0
      availableAt := createdAt
      claimedAt := none
      claimedUntil := none
      claimToken := none
      publishedAt := none
      lastError := none
      createdAt := createdAt }

/-- The `WHERE` clause of `claim_batch`: a comparison with `NULL` is not true. -/
def eligible (now : Instant) (event : OutboxEvent) : Bool :=
  (event.status == .pending && event.availableAt ≤ now) ||
    (event.status == .processing && event.claimedUntil.any fun claimedUntil => claimedUntil ≤ now)

/-- The body of the loop of `claim_batch`. -/
def claim (now : Instant) (leaseDuration : Duration) (uuid4 : String) (event : OutboxEvent) :
    OutboxEvent :=
  { event with
    status := .processing
    attemptCount := event.attemptCount + 1
    claimedAt := some now
    claimedUntil := some (now + leaseDuration)
    claimToken := some uuid4 }

/-- The check of `mark_published` and `apply_failure`. -/
def holds (event : OutboxEvent) (claimToken : String) : Bool :=
  event.status == .processing && event.claimToken == some claimToken

/-- `mark_published`: what it raises, and the row it leaves. -/
def markPublished (claimToken : String) (now : Instant) (event : OutboxEvent) :
    Except PyError Unit × OutboxEvent :=
  if event.holds claimToken then
    (.ok (), { event with
      status := .published
      publishedAt := some now
      claimedUntil := none
      claimToken := none
      lastError := none })
  else (.error (.valueError "Only a claimed event can be marked as published"), event)

/-- `redact_text(error).replace("\r", " ").replace("\n", " ")[:MAX_ERROR_LENGTH]`. -/
def sanitizedError (error : String) : String :=
  String.ofList
    (((redact error.toList).map fun character =>
      if character = '\r' ∨ character = '\n' then ' ' else character).take maxErrorLength)

/-- `now` and the delay of the next attempt. -/
def retryAt (policy : RetryPolicy) (attemptCount : ℕ) (now : Instant) : Except PyError Instant := do
  let power ← floatPower (attemptCount - 1)
  let delay ← timedeltaSeconds (min (policy.baseDelaySeconds * power) policy.maxDelaySeconds)
  datetimeOf (now + delay)

/-- The row of a failed event whose claim is released. -/
def released (error : String) (event : OutboxEvent) : OutboxEvent :=
  { event with
    lastError := some (sanitizedError error)
    claimedAt := none
    claimedUntil := none
    claimToken := none }

/-- `apply_failure`: what it raises, and the row it leaves. -/
def applyFailure (claimToken : String) (now : Instant) (error : String) (retryPolicy : RetryPolicy)
    (event : OutboxEvent) : Except PyError Unit × OutboxEvent :=
  if event.holds claimToken then
    if retryPolicy.maxAttempts ≤ event.attemptCount then
      (.ok (), { event.released error with status := .deadLetter })
    else
      match retryAt retryPolicy event.attemptCount now with
      | .ok availableAt =>
          (.ok (), { event.released error with status := .pending, availableAt := availableAt })
      | .error raised => (.error raised, event.released error)
  else (.error (.valueError "Only a claimed event can fail publication"), event)

/-! ## Sound events -/

/-- How the fields of an event go together. -/
structure Sound (event : OutboxEvent) : Prop where
  token : event.status = .processing ↔ event.claimToken.isSome = true
  lease : event.status = .processing ↔ event.claimedUntil.isSome = true
  leasePositive : ∀ claimedUntil ∈ event.claimedUntil, ∃ claimedAt ∈ event.claimedAt,
    claimedAt < claimedUntil
  published : event.publishedAt.isSome = true ↔ event.status = .published
  publishedError : event.status = .published → event.lastError = none
  deadError : event.status = .deadLetter → event.lastError.isSome = true
  errorText : ∀ error ∈ event.lastError, error.length ≤ maxErrorLength ∧
    ∀ character ∈ error.toList, character ≠ '\r' ∧ character ≠ '\n'

/-- What a new event looks like. -/
theorem of_create {now : Instant} {uuid4 : String} {arguments : NewEvent} {event : OutboxEvent}
    (created : create now uuid4 arguments = .ok event) :
    event.Sound ∧ event.status = .pending ∧ event.attemptCount = 0 ∧ event.claimToken = none ∧
      event.eventId = arguments.eventId.getD uuid4 := by
  unfold create at created
  simp only [bind_ok_iff] at created
  obtain ⟨_, -, _, -, _, -, created⟩ := created
  split_ifs at created
  cases created
  refine ⟨⟨?_, ?_, ?_, ?_, ?_, ?_, ?_⟩, rfl, rfl, rfl, rfl⟩ <;> simp

section Row

variable {event : OutboxEvent} {now : Instant}

theorem eligible_iff :
    event.eligible now = true ↔
      (event.status = .pending ∧ event.availableAt ≤ now) ∨
        (event.status = .processing ∧ ∃ claimedUntil ∈ event.claimedUntil, claimedUntil ≤ now) := by
  simp [eligible, Option.any_eq_true]

theorem holds_iff {claimToken : String} :
    event.holds claimToken = true ↔
      event.status = .processing ∧ event.claimToken = some claimToken := by
  simp [holds]

/-- Only pending and processing events are returned. -/
theorem status_of_eligible (isEligible : event.eligible now = true) :
    event.status = .pending ∨ event.status = .processing := by
  rcases eligible_iff.mp isEligible with ⟨pending, -⟩ | ⟨processing, -⟩
  · exact .inl pending
  · exact .inr processing

/-- A claimed event is sound. -/
theorem Sound.claim (sound : event.Sound) (isEligible : event.eligible now = true)
    {leaseDuration : Duration} (positive : 0 < leaseDuration) (uuid4 : String) :
    (event.claim now leaseDuration uuid4).Sound := by
  have notPublished : event.publishedAt.isSome = true → False := by
    intro isPublished
    rcases status_of_eligible isEligible with pending | processing
    · exact absurd (sound.published.mp isPublished) (by rw [pending]; decide)
    · exact absurd (sound.published.mp isPublished) (by rw [processing]; decide)
  constructor
  · exact iff_of_true rfl rfl
  · exact iff_of_true rfl rfl
  · rintro claimedUntil same
    cases same
    exact ⟨now, rfl, lt_add_of_pos_right now positive⟩
  · exact iff_of_false notPublished (by simp [OutboxEvent.claim])
  · intro isPublished
    cases isPublished
  · intro isDead
    cases isDead
  · exact sound.errorText

/-- **`mark_published`** publishes the event for the holder of the claim, and
otherwise raises and leaves the row alone. -/
theorem markPublished_cases (claimToken : String) (now : Instant) (event : OutboxEvent) :
    (event.holds claimToken = false ∧ event.markPublished claimToken now =
      (.error (.valueError "Only a claimed event can be marked as published"), event)) ∨
    (event.holds claimToken = true ∧ (event.markPublished claimToken now).1 = .ok () ∧
      (event.markPublished claimToken now).2 = { event with
        status := .published
        publishedAt := some now
        claimedUntil := none
        claimToken := none
        lastError := none }) := by
  unfold markPublished
  cases holding : event.holds claimToken with
  | false => exact .inl ⟨rfl, rfl⟩
  | true => exact .inr ⟨rfl, rfl, rfl⟩

/-- A published event is sound. -/
theorem Sound.markPublished (sound : event.Sound) (claimToken : String) (now : Instant) :
    (event.markPublished claimToken now).2.Sound := by
  rcases markPublished_cases claimToken now event with ⟨-, same⟩ | ⟨-, -, same⟩
  · rw [same]
    exact sound
  · rw [same]
    constructor <;> simp

/-- The time of a retry is refused only because it cannot be represented. -/
theorem retryAt_error {policy : RetryPolicy} {attemptCount : ℕ} {raised : PyError}
    (failed : retryAt policy attemptCount now = .error raised) : raised = .overflowError := by
  unfold retryAt floatPower timedeltaSeconds datetimeOf at failed
  simp only [bind_error_iff] at failed
  rcases failed with failed | ⟨_, -, failed | ⟨_, -, failed⟩⟩
  · split_ifs at failed
    cases failed
    rfl
  · split_ifs at failed
    cases failed
    rfl
  · split_ifs at failed
    cases failed
    rfl

/-- **`apply_failure`** gives up the event or puts it back for the holder of the
claim, and otherwise raises and leaves the row alone.  A retry that cannot be
represented raises with the claim released. -/
theorem applyFailure_cases (claimToken : String) (now : Instant) (error : String)
    (policy : RetryPolicy) (event : OutboxEvent) :
    (event.holds claimToken = false ∧ event.applyFailure claimToken now error policy =
      (.error (.valueError "Only a claimed event can fail publication"), event)) ∨
    (event.holds claimToken = true ∧ policy.maxAttempts ≤ event.attemptCount ∧
      event.applyFailure claimToken now error policy =
        (.ok (), { event.released error with status := .deadLetter })) ∨
    (event.holds claimToken = true ∧ event.attemptCount < policy.maxAttempts ∧
      ∃ availableAt, event.applyFailure claimToken now error policy =
        (.ok (), { event.released error with status := .pending, availableAt := availableAt })) ∨
    (event.holds claimToken = true ∧ event.attemptCount < policy.maxAttempts ∧
      event.applyFailure claimToken now error policy =
        (.error .overflowError, event.released error)) := by
  unfold applyFailure
  cases holding : event.holds claimToken with
  | false => exact .inl ⟨rfl, rfl⟩
  | true =>
      refine .inr ?_
      rw [if_pos rfl]
      split_ifs with exhausted
      · exact .inl ⟨rfl, exhausted, rfl⟩
      · refine .inr ?_
        cases retry : retryAt policy event.attemptCount now with
        | ok availableAt => exact .inl ⟨rfl, not_le.mp exhausted, availableAt, rfl⟩
        | error raised =>
            rw [retryAt_error retry]
            exact .inr ⟨rfl, not_le.mp exhausted, rfl⟩

/-- The stored error is short and on one line. -/
theorem sanitizedError_text (error : String) :
    (sanitizedError error).length ≤ maxErrorLength ∧
      ∀ character ∈ (sanitizedError error).toList, character ≠ '\r' ∧ character ≠ '\n' := by
  unfold sanitizedError
  constructor
  · rw [String.length_ofList]
    exact List.length_take_le _ _
  · intro character member
    rw [String.toList_ofList] at member
    obtain ⟨original, -, rfl⟩ := List.mem_map.mp (List.mem_of_mem_take member)
    split_ifs with lineBreak
    · decide
    · exact not_or.mp lineBreak

/-- A failed event is sound, unless its retry cannot be represented. -/
theorem Sound.applyFailure (sound : event.Sound) (claimToken : String) (now : Instant)
    (error : String) (policy : RetryPolicy)
    (representable : (event.applyFailure claimToken now error policy).1 ≠ .error .overflowError) :
    (event.applyFailure claimToken now error policy).2.Sound := by
  have notPublished : event.holds claimToken = true → event.publishedAt = none := by
    intro holding
    have processing := (holds_iff.mp holding).1
    rw [Option.eq_none_iff_forall_ne_some]
    rintro publishedAt same
    have isPublished := sound.published.mp (by rw [same]; rfl)
    rw [processing] at isPublished
    cases isPublished
  have text : ∀ stored ∈ (event.released error).lastError, stored.length ≤ maxErrorLength ∧
      ∀ character ∈ stored.toList, character ≠ '\r' ∧ character ≠ '\n' := by
    rintro stored same
    cases same
    exact sanitizedError_text error
  rcases applyFailure_cases claimToken now error policy event with
    ⟨-, same⟩ | ⟨holding, -, same⟩ | ⟨holding, -, availableAt, same⟩ | ⟨-, -, same⟩
  · rw [same]
    exact sound
  · rw [same]
    refine ⟨?_, ?_, ?_, ?_, ?_, ?_, text⟩ <;> simp [released, notPublished holding]
  · rw [same]
    refine ⟨?_, ?_, ?_, ?_, ?_, ?_, text⟩ <;> simp [released, notPublished holding]
  · rw [same] at representable
    exact absurd rfl representable

end Row

end OutboxEvent

end BidSystem.Outbox
